import LiveForm.Script.Machine
import LiveForm.Script.Sorting

/-!
# Functions that call back

These functions walk through an array or a map and call a function of the script for each item. How that
function is called is a parameter (`Caller`): it may work on the item as `this`, or take the item among its
arguments, with or without the place of the item. What it returns counts as false unless it is `true`.

A function that works on an item as `this` may change it, and the array keeps the change.
-/

namespace LiveForm.Script

/-- A call of a function: what may be `this`, with the place among the arguments it takes if the function
wants it there, the arguments, and what may follow them. The second result is what the function leaves of
`this`. -/
abbrev Caller (σ : Type) :=
  (function : Value) → (this : Option (Value × Option Nat)) → (args extra : List Value) →
    Run σ (Value × Option Value)

namespace Callback

variable {σ α : Type}

def isTrue : Value → Bool
  | .bool b => b
  | _ => false

/-- Calls for the items from the place `n` on, until the judge of the results has seen enough. The second
result has all items as they are then. -/
def sweep (ask : Value → Nat → Run σ (Value × Option Value))
    (judge : α → (item : Value) → (place : Nat) → (result : Value) → α × Bool) (sum : α) (n : Nat)
    (visited : List Value) : List Value → Run σ (α × List Value)
  | [] => return (sum, visited.reverse)
  | item :: rest => do
    let (result, left) ← ask item n
    let now := left.getD item
    let (sum, enough) := judge sum now n result
    if enough then return (sum, visited.reverse ++ now :: rest)
    else sweep ask judge sum (n + 1) (now :: visited) rest

/-- A call for an item at a place. -/
def askItem (call : Caller σ) (f item : Value) (n : Nat) : Run σ (Value × Option Value) :=
  call f (some (item, some 0)) [] [.ofNat n]

/-- The outcome of calls for the items of an array from a place on, as far as the judge wants them. -/
def overItems (call : Caller σ) (f : Value) (items : List Value) (start : Nat) (sum : α)
    (judge : α → Value → Nat → Value → α × Bool) (answer : α → Value) : Run σ Outcome := do
  let (sum, after) ← sweep (askItem call f) judge sum start [] (items.drop start)
  return ⟨answer sum, some (.array (items.take start ++ after))⟩

/-- The first item for which the function has this truth value, with its place. -/
def firstWith (wanted : Bool) (found : Option (Value × Nat)) (item : Value) (n : Nat)
    (result : Value) : Option (Value × Nat) × Bool :=
  if isTrue result == wanted then (some (item, n), true) else (found, false)

/-- The first result that is not the unit. -/
def firstResult (_ : Value) (_ : Value) (_ : Nat) (result : Value) : Value × Bool :=
  (result, !result.isUnit)

/-- The items for which the function is true and the others, the last ones first. -/
def sides (sum : List Value × List Value) (item : Value) (_ : Nat) (result : Value) :
    (List Value × List Value) × Bool :=
  (if isTrue result then (item :: sum.1, sum.2) else (sum.1, item :: sum.2), false)

/-- The two sides of an array. -/
def partition (call : Caller σ) (f : Value) (items : List Value) :
    Run σ ((List Value × List Value) × List Value) := do
  let ((yes, no), after) ← sweep (askItem call f) sides ([], []) 0 [] items
  return ((yes.reverse, no.reverse), after)

/-- Calls for every item, with nothing but its place as an argument. -/
def forEach (call : Caller σ) (f : Value) (items : List Value) : Run σ Outcome := do
  let ask := fun item n => call f (some (item, none)) [] [.ofNat n]
  let (_, after) ← sweep ask (fun _ _ _ _ => ((), false)) () 0 [] items
  return ⟨.unit, some (.array after)⟩

/-- The items, with their places, combined one by one with what has been combined before. -/
def reduce (call : Caller σ) (f sum : Value) : List (Value × Nat) → Run σ Value
  | [] => return sum
  | (item, n) :: rest => do
    let (next, _) ← call f (some (item, some 1)) [sum] [.ofNat n]
    reduce call f next rest

/-- Whether a comparison function puts an item before another one. One that faults does not. -/
def putsBefore (call : Caller σ) (f a b : Value) : Run σ Bool := do
  match ← Run.outcome (call f none [a, b] []) with
  | .ok (.int n, _) => return n.toInt < 0
  | .ok (.bool before, _) => return before
  | _ => return false

/-- The items without those that the function, given the item before as well, finds to be repeats. -/
def dedup (call : Caller σ) (f last : Value) (done : List Value) : List Value → Run σ (List Value)
  | [] => return done.reverse
  | item :: rest => do
    match ← Run.outcome (call f none [last, item] []) with
    | .ok (.bool true, _) => dedup call f last done rest
    | _ => dedup call f item (item :: done) rest

/-- Pairs of items of two arrays, combined. -/
def zip (call : Caller σ) (f : Value) (done : List Value) (n : Nat) :
    List Value → List Value → Run σ (List Value)
  | a :: as, b :: bs => do
    let (v, _) ← call f none [a, b] [.ofNat n]
    zip call f (v :: done) (n + 1) as bs
  | _, _ => return done.reverse

/-- The members for which the function is true of key and value, and the others. -/
def partitionMembers (call : Caller σ) (f : Value) (yes no : List (String × Value)) :
    List (String × Value) → Run σ (List (String × Value) × List (String × Value))
  | [] => return (yes.reverse, no.reverse)
  | (k, v) :: rest => do
    if isTrue (← call f (some (v, some 1)) [.text k] []).1 then
      partitionMembers call f ((k, v) :: yes) no rest
    else partitionMembers call f yes ((k, v) :: no) rest

/-- An answer that changes nothing. -/
def answer (v : Value) : Run σ Outcome := return ⟨v, none⟩

/-- The place of a found item, or `-1`. -/
def placeOf (found : Option (Value × Nat)) : Value := found.elim (.int (-1)) fun (_, n) => .ofNat n

/-- A found item, or the unit. -/
def itemOf (found : Option (Value × Nat)) : Value := found.elim .unit (·.1)

/-- The functions that look for an item from a place on. -/
def searches (call : Caller σ) (name : String) (items : List Value) (f : Value) (start : Nat) :
    Option (Run σ Outcome) :=
  match name with
  | "find" => some (overItems call f items start none (firstWith true) itemOf)
  | "index_of" => some (overItems call f items start none (firstWith true) placeOf)
  | "find_map" => some (overItems call f items start .unit firstResult id)
  | _ => none

/-- The functions that take an array and a function of the script. -/
def onArray (call : Caller σ) (name : String) (items : List Value) (f : Value)
    (more : List Value) : Option (Run σ Outcome) :=
  match name, more with
  | "map", [] =>
    some (overItems call f items 0 [] (fun sum _ _ v => (v :: sum, false)) fun sum => .array sum.reverse)
  | "filter", [] => some do
    let ((yes, _), after) ← partition call f items
    return ⟨.array yes, some (.array after)⟩
  | "some", [] =>
    some (overItems call f items 0 none (firstWith true) fun found => .bool found.isSome)
  | "all", [] =>
    some (overItems call f items 0 none (firstWith false) fun found => .bool found.isNone)
  | "for_each", [] => some (forEach call f items)
  | "reduce", [] => some do answer (← reduce call f .unit items.zipIdx)
  | "reduce", [start] => some do answer (← reduce call f start items.zipIdx)
  | "reduce_rev", [] => some do answer (← reduce call f .unit items.zipIdx.reverse)
  | "reduce_rev", [start] => some do answer (← reduce call f start items.zipIdx.reverse)
  | "sort", [] | "sort_by", [] => some do return ⟨.unit, some (.array (← Sorting.sort (putsBefore call f) items))⟩
  | "order", [] | "order_by", [] => some do answer (.array (← Sorting.sort (putsBefore call f) items))
  | "dedup", [] =>
    match items with
    | first :: rest => some do return ⟨.unit, some (.array (← dedup call f first [first] rest))⟩
    | [] => some (answer .unit)
  | "drain", [] => some do
    let ((yes, no), _) ← partition call f items
    return ⟨.array yes, some (.array no)⟩
  | "retain", [] => some do
    let ((yes, no), _) ← partition call f items
    return ⟨.array no, some (.array yes)⟩
  | name, [] => searches call name items f 0
  | name, [.int start] => searches call name items f (stretch items.length start.toInt 0).1
  | _, _ => none

/-- The functions that take a map and a function of the script. -/
def onMap (call : Caller σ) (name : String) (members : List (String × Value)) (f : Value) :
    Option (Run σ Outcome) :=
  match name with
  | "filter" => some do answer (.map (← partitionMembers call f [] [] members).1)
  | "drain" => some do
    let (yes, no) ← partitionMembers call f [] [] members
    return ⟨.map yes, some (.map no)⟩
  | "retain" => some do
    let (yes, no) ← partitionMembers call f [] [] members
    return ⟨.map no, some (.map yes)⟩
  | _ => none

/-- What a function of this name does with these arguments, if it is one that calls back. -/
def find? (call : Caller σ) (name : String) (args : List Value) : Option (Run σ Outcome) :=
  match args with
  | .array items :: .array others :: [.function f captured] =>
    if name == "zip" then
      some do answer (.array (← zip call (.function f captured) [] 0 items others))
    else none
  | .array items :: .function f captured :: more =>
    onArray call name items (.function f captured) more
  | [.map members, .function f captured] => onMap call name members (.function f captured)
  | _ => none

end Callback

end LiveForm.Script

import LiveForm.Script.Builtin
import LiveForm.Script.Sorting

/-!
# Functions on arrays

An index beyond an array is never a fault here: reading there gives the unit, inserting there appends.
Functions that take a part of an array take a start, or a start and a count, or a range.
-/

namespace LiveForm.Script.Builtin

/-- The place of the first item equal to a value, from a place on. -/
def indexOfItem (v : Value) (n : Nat) : List Value → Except Cause Value
  | [] => .ok (.int (-1))
  | item :: rest => do
    if ← Operator.sameItem item v then return .ofNat n else indexOfItem v (n + 1) rest

/-- Whether a value is among the items. -/
def hasItem (v : Value) : List Value → Except Cause Value
  | [] => .ok (.bool false)
  | item :: rest => do
    if ← Operator.sameItem item v then return .bool true else hasItem v rest

/-- The items without those that equal the one before them. Items that cannot be compared differ. -/
def withoutRepeats (last : Value) : List Value → List Value
  | [] => []
  | item :: rest =>
    match Operator.sameValue item last with
    | .ok true => withoutRepeats last rest
    | _ => item :: withoutRepeats item rest

/-- Whether an item comes before another one of its kind. Floats that are no numbers come before none. -/
def comesBefore (a b : Value) : Bool :=
  match a, b with
  | .int m, .int n => m.toInt < n.toInt
  | .float x, .float y => x < y
  | .text s, .text t => s < t
  | .char c, .char d => c < d
  | .bool a, .bool b => !a && b
  | _, _ => false

/-- Whether items of a kind can be sorted. -/
def canBeSorted : Value.Kind → Bool
  | .int | .float | .text | .char | .bool | .unit => true
  | _ => false

/-- The items in increasing order. They have to be of one kind. -/
def sorted (items : List Value) : Except Cause (List Value) :=
  match items with
  | [] | [_] => .ok items
  | first :: _ =>
    if items.any fun v => v.kind != first.kind then
      .error (.functionNotFound "elements of different types cannot be sorted")
    else if canBeSorted first.kind then
      .ok (Id.run (Sorting.sort (fun a b => pure (comesBefore a b)) items))
    else .error (.functionNotFound ("elements of " ++ first.kindName ++ " cannot be sorted"))

/-- Fills an array up with copies of an item, unless that would be too large. -/
def padArray (limits : Limits) (items : List Value) (length : Int) (item : Value) :
    Option (Except Cause Outcome) :=
  if Limits.exceeds limits.arraySize length.toNat then fault (.tooLarge "Size of array/BLOB")
  else change (.array (items ++ List.replicate (length.toNat - items.length) item))

/-- The functions on arrays. -/
def arrays (limits : Limits) (name : String) : Option (List Value → Option (Except Cause Outcome)) :=
  match name with
  | "len" => some fun
    | [.array items] => answer (.ofNat items.length)
    | _ => none
  | "is_empty" => some fun
    | [.array items] => answer (.bool items.isEmpty)
    | _ => none
  | "get" => some fun
    | [.array items, .int i] =>
      answer (((nearPlace? items.length i).bind fun n => items[n]?).getD .unit)
    | _ => none
  | "set" => some fun
    | [.array items, .int i, v] =>
      match nearPlace? items.length i with
      | some n => change (.array (items.set n v))
      | none => answer .unit
    | _ => none
  | "push" => some fun
    | [.array items, v] => change (.array (items ++ [v]))
    | _ => none
  | "append" => some fun
    | [.array items, .array others] => change (.array (items ++ others))
    | _ => none
  | "insert" => some fun
    | [.array items, .int i, v] => change (.array (insertInto items i v))
    | _ => none
  | "pad" => some fun
    | [.array items, .int n, v] => padArray limits items n.toInt v
    | _ => none
  | "pop" => some fun
    | [.array items] =>
      match items.reverse with
      | last :: rest => both last (.array rest.reverse)
      | [] => answer .unit
    | _ => none
  | "shift" => some fun
    | [.array items] =>
      match items with
      | first :: rest => both first (.array rest)
      | [] => answer .unit
    | _ => none
  | "remove" => some fun
    | [.array items, .int i] =>
      match place? items.length i with
      | some n => both (items[n]?.getD .unit) (.array (items.eraseIdx n))
      | none => answer .unit
    | _ => none
  | "clear" => some fun
    | [.array _] => change (.array [])
    | _ => none
  | "truncate" => some fun
    | [.array items, .int n] => change (.array (items.take n.toInt.toNat))
    | _ => none
  | "chop" => some fun
    | [.array items, .int n] => change (.array (items.drop (items.length - n.toInt.toNat)))
    | _ => none
  | "reverse" => some fun
    | [.array items] => change (.array items.reverse)
    | _ => none
  | "extract" => some fun
    | [.array items, .int start] => answer (.array (partOfList items start.toInt allTheRest))
    | [.array items, .int start, .int count] =>
      answer (.array (partOfList items start.toInt count.toInt))
    | [.array items, .range first last closed] =>
      let (start, count) := rangeStretch first last closed
      answer (.array (partOfList items start count))
    | _ => none
  | "splice" => some fun
    | [.array items, .int start, .int count, .array others] =>
      change (.array (spliced items start.toInt count.toInt others))
    | [.array items, .range first last closed, .array others] =>
      let (start, count) := rangeStretch first last closed
      change (.array (spliced items start count others))
    | _ => none
  | "split" => some fun
    | [.array items, .int start] =>
      let (n, _) := stretch items.length start.toInt 0
      both (.array (items.drop n)) (.array (items.take n))
    | _ => none
  | "drain" => some fun
    | [.array items, .int start, .int count] =>
      both (.array (partOfList items start.toInt count.toInt))
        (.array (restOfList items start.toInt count.toInt))
    | [.array items, .range first last closed] =>
      let (start, count) := rangeStretch first last closed
      both (.array (partOfList items start count)) (.array (restOfList items start count))
    | _ => none
  | "retain" => some fun
    | [.array items, .int start, .int count] =>
      let (kept, cut) := keptOfList items start.toInt count.toInt
      both (.array cut) (.array kept)
    | [.array items, .range first last closed] =>
      let (start, count) := rangeStretch first last closed
      let (kept, cut) := keptOfList items start count
      both (.array cut) (.array kept)
    | _ => none
  | "contains" => some fun
    | [.array items, v] => attempt (hasItem v items)
    | _ => none
  | "index_of" => some fun
    | [.array items, v] => attempt (indexOfItem v 0 items)
    | [.array items, v, .int start] =>
      let (n, _) := stretch items.length start.toInt 0
      attempt (indexOfItem v n (items.drop n))
    | _ => none
  | "dedup" => some fun
    | [.array items] =>
      match items with
      | first :: rest => change (.array (first :: withoutRepeats first rest))
      | [] => answer .unit
    | _ => none
  | "sort" => some fun
    | [.array items] =>
      match sorted items with
      | .ok done => change (.array done)
      | .error e => fault e
    | _ => none
  | "sort_desc" => some fun
    | [.array items] =>
      match sorted items with
      | .ok done => change (.array done.reverse)
      | .error e => fault e
    | _ => none
  | "order" => some fun
    | [.array items] => attempt (.array <$> sorted items)
    | _ => none
  | "order_desc" => some fun
    | [.array items] => attempt ((.array ·.reverse) <$> sorted items)
    | _ => none
  | _ => none

/-- The properties of arrays and blobs. -/
def countProperty? (count : Nat) : String → Option Value
  | "len" => some (.ofNat count)
  | "is_empty" => some (.bool (count == 0))
  | _ => none

end LiveForm.Script.Builtin

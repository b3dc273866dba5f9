import LiveForm.Script.Compute
import LiveForm.Script.Limits

/-!
# Builtin functions

A builtin function looks at its arguments and either does not fit them (`none`), or faults, or answers. A
function that changes its first argument leaves a new one in its place. Functions that call back into the
script are not among these (`LiveForm.Script.Callback`).

Here are also the two ways in which places in texts and arrays are counted.
-/

namespace LiveForm.Script

/-- What a function answers, and what it leaves in the place of its first argument. -/
structure Outcome where
  value : Value
  changed : Option Value := none

/-- A function on values; the limits are those of the script that calls it. -/
abbrev Builtin := Limits → List Value → Option (Except Cause Outcome)

namespace Builtin

/-- The answer of a function that changes nothing. -/
def answer (v : Value) : Option (Except Cause Outcome) := some (.ok ⟨v, none⟩)

/-- The unit as the answer, and a new first argument. -/
def change (first : Value) : Option (Except Cause Outcome) := some (.ok ⟨.unit, some first⟩)

/-- An answer and a new first argument. -/
def both (v first : Value) : Option (Except Cause Outcome) := some (.ok ⟨v, some first⟩)

def fault (c : Cause) : Option (Except Cause Outcome) := some (.error c)

/-- The answer of a function that may fault. -/
def attempt (r : Except Cause Value) : Option (Except Cause Outcome) :=
  some (r.map fun v => ⟨v, none⟩)

end Builtin

/-! ## Places -/

/-- The place an index stands for among so many; a negative one counts from the end. -/
def place? (length : Nat) (index : Int64) : Option Nat :=
  let i := index.toInt
  if i < 0 then if i.natAbs ≤ length then some (length - i.natAbs) else none
  else if i.toNat < length then some i.toNat else none

/-- A start, counted from the end if it is negative, and a count, both cut to what is there. -/
def stretch (length : Nat) (start count : Int) : Nat × Nat :=
  let first :=
    if start < 0 then length - min start.natAbs length
    else min start.toNat length
  (first, min count.toNat (length - first))

/-- The part of a list that starts at a place and has at most so many items. -/
def slice {α : Type} (items : List α) (start count : Int) : List α :=
  let (first, n) := stretch items.length start count
  (items.drop first).take n

/-- The place an index stands for among so many. One that counts back beyond the start is the start. -/
def nearPlace? (length : Nat) (index : Int64) : Option Nat :=
  let (n, _) := stretch length index.toInt 0
  if n < length then some n else none

/-- The part of a list that a start and a count name. -/
def partOfList {α : Type} (items : List α) (start count : Int) : List α :=
  if count ≤ 0 then [] else slice items start count

/-- The list without the part that a start and a count name. -/
def restOfList {α : Type} (items : List α) (start count : Int) : List α :=
  if count ≤ 0 then items
  else
    let (first, n) := stretch items.length start count
    items.take first ++ items.drop (first + n)

/-- What a list is cut down to by keeping the part that a start and a count name, and what is cut off. A part
without items cuts nothing off. -/
def keptOfList {α : Type} (items : List α) (start count : Int) : List α × List α :=
  if (partOfList items start count).isEmpty then (items, [])
  else (partOfList items start count, restOfList items start count)

/-- The list with an item put in at a place; beyond the end it is appended. -/
def insertInto {α : Type} (items : List α) (index : Int64) (item : α) : List α :=
  let (n, _) := stretch items.length index.toInt 0
  items.take n ++ item :: items.drop n

/-- The list with a part replaced by other items. A part without items is at the end. -/
def spliced {α : Type} (items : List α) (start count : Int) (others : List α) : List α :=
  let (first, n) := stretch items.length start count
  if n = 0 then items ++ others else items.take first ++ others ++ items.drop (first + n)

/-- The start and the count of a range of places. -/
def rangeStretch (first last : Int64) (closed : Bool) : Int × Int :=
  let start := max first.toInt 0
  let stop := max last.toInt start
  (start, stop - start + if closed then 1 else 0)

/-! ## Bits -/

/-- The lowest bit and the number of bits that a range of an integer's bits stands for. The ends lie
between 0 and 64. -/
def bitSpan (first last : Int64) (closed : Bool) : Except Cause (Nat × Nat) := do
  let low ← bound first
  let high ← bound last
  return (low, min (high + (if closed then 1 else 0) - low) (64 - low))
where
  bound (n : Int64) : Except Cause Nat :=
    if 0 ≤ n.toInt ∧ n.toInt ≤ 64 then .ok n.toInt.toNat
    else .error (.outOfBounds .bits 64 n.toInt)

/-- The bits of an integer in a span. The highest bit of the integer is its sign also there. -/
def bitsIn (n : Int64) (low width : Nat) : Int64 :=
  if width = 0 then 0
  else if low + width = 64 then Arithmetic.shiftRight n low
  else Arithmetic.ofBits (Arithmetic.bitsOf n / 2 ^ low % 2 ^ width)

/-- An integer with the bits in a span replaced by the lowest bits of another one. -/
def withBits (n : Int64) (low width : Nat) (bits : Int64) : Int64 :=
  let old := Arithmetic.bitsOf n / 2 ^ low % 2 ^ width
  let new := Arithmetic.bitsOf bits % 2 ^ width
  Arithmetic.ofBits (Arithmetic.bitsOf n - old * 2 ^ low + new * 2 ^ low)

/-- More than any count. -/
def allTheRest : Int := 2 ^ 63 - 1

end LiveForm.Script

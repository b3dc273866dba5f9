import LiveForm.Script.Builtin

/-!
# Functions on the bits of integers

An integer is a row of 64 bits, the lowest one first. A part of them is named by a start and a count, or by a
range; the start may be counted from the end.
-/

namespace LiveForm.Script.Builtin

/-- The place of a bit, or a fault. -/
def bitPlace (index : Int64) : Except Cause Nat :=
  match place? 64 index with
  | some n => .ok n
  | none => .error (.outOfBounds .bits 64 index.toInt)

/-- An integer of a range's end. -/
def asIndex (n : Int) : Int64 := Int64.ofInt n

/-- The bits of a part of an integer, as an integer. -/
def bitsOfPart (n : Int64) (start : Int64) (count : Int) : Except Cause Value := do
  if count ≤ 0 then return .int 0
  let low ← bitPlace start
  return .int (bitsIn n low (min count.toNat (64 - low)))

/-- An integer with the bits of a part replaced. -/
def withPart (n : Int64) (start : Int64) (count : Int) (bits : Int64) : Except Cause Value := do
  if count ≤ 0 then return .int n
  let low ← bitPlace start
  return .int (withBits n low (min count.toNat (64 - low)) bits)

/-- The bits of a part of an integer, to be walked through. -/
def bitRow (n : Int64) (start : Int64) (count : Int) : Except Cause Value := do
  let low ← bitPlace start
  let width := min count.toNat (64 - low)
  return .bits ((List.range width).map fun i => Arithmetic.bit n (low + i))

/-- A change of the first argument that may fault. -/
def attemptChange (r : Except Cause Value) : Option (Except Cause Outcome) :=
  some (r.map fun v => ⟨.unit, some v⟩)

/-- The functions on bits. -/
def bitFunctions (name : String) : Option (List Value → Option (Except Cause Outcome)) :=
  match name with
  | "get_bit" => some fun
    | [.int n, .int i] => attempt do
      return .bool (Arithmetic.bit n (← bitPlace i))
    | _ => none
  | "set_bit" => some fun
    | [.int n, .int i, .bool b] => attemptChange do
      return .int (Arithmetic.setBit n (← bitPlace i) b)
    | _ => none
  | "get_bits" => some fun
    | [.int n, .int start, .int count] => attempt (bitsOfPart n start count.toInt)
    | [.int n, .range first last closed] =>
      let (start, count) := rangeStretch first last closed
      attempt (bitsOfPart n (asIndex start) count)
    | _ => none
  | "set_bits" => some fun
    | [.int n, .int start, .int count, .int bits] =>
      attemptChange (withPart n start count.toInt bits)
    | [.int n, .range first last closed, .int bits] =>
      let (start, count) := rangeStretch first last closed
      attemptChange (withPart n (asIndex start) count bits)
    | _ => none
  | "bits" => some fun
    | [.int n] => attempt (bitRow n 0 allTheRest)
    | [.int n, .int start] => attempt (bitRow n start allTheRest)
    | [.int n, .int start, .int count] => attempt (bitRow n start count.toInt)
    | [.int n, .range first last closed] =>
      let (start, count) := rangeStretch first last closed
      attempt (bitRow n (asIndex start) count)
    | _ => none
  | _ => none

/-- The properties of integers as rows of bits. -/
def bitProperty? (n : Int64) (name : String) : Option Value :=
  if name == "bits" then (bitRow n 0 allTheRest).toOption else none

end LiveForm.Script.Builtin

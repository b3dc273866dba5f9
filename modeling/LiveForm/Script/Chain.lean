import LiveForm.Script.Machine

/-!
# Properties and indices

Reading and writing one part of a value: a property or an indexed item. A part that is read may be changed
further down a chain; putting it back is the same write as an assignment.

Some parts have no place of their own in the whole: bits of an integer, characters and slices of a text,
bytes of a blob (`Value.isDetached`). They are copies, which a write puts back.
-/

namespace LiveForm.Script

/-- One link of a chain whose arguments have been computed. -/
inductive Step where
  | property (name : String) (safe : Bool) (mark pos : Position)
  /-- `pos` is the position of the index, `mark` that of its bracket. -/
  | index (place : Value) (safe : Bool) (mark pos : Position)
  | method (name : String) (args : List Value) (argPos : Option Position) (safe : Bool)
      (pos : Position)

namespace Step

/-- Whether the step from the unit is the unit. -/
def isSafe : Step → Bool
  | .property _ safe _ _ | .index _ safe _ _ | .method _ _ _ safe _ => safe

end Step

/-! ## Slices of texts -/

/-- The places of characters where a slice starts and where the text goes on after it. -/
def sliceEnds (count : Nat) (first last : Int64) (closed : Bool) : Except Cause (Nat × Nat) :=
  let stop := if 0 ≤ last.toInt then last.toInt.toNat
    else if last.toInt.natAbs ≤ count then count - last.toInt.natAbs else 0
  let after := if closed then stop + 1 else stop
  if 0 ≤ first.toInt then .ok (first.toInt.toNat, after)
  else if first.toInt.natAbs ≤ count then .ok (count - first.toInt.natAbs, after)
  else .error (.outOfBounds .text count first.toInt)

namespace Value

/-- The value of a property. Maps answer the unit for members they do not have. -/
def property (v : Value) (name : String) : Except Cause Value :=
  match v with
  | .map members => .ok ((members.lookup name).getD .unit)
  | v =>
    match Builtin.property? v name with
    | some p => p
    | none => .error (.unknownProperty name v.kindName)

/-- An index among so many items, or the fault it makes. -/
def placeIn (of : Indexed) (length : Nat) (index : Value) : Except Cause Nat :=
  match index with
  | .int i =>
    match place? length i with
    | some n => .ok n
    | none => .error (.outOfBounds of length i.toInt)
  | v => .error (.mismatch "i64" v.kind.longName)

/-- The item at an index. -/
def item (v index : Value) : Except Cause Value :=
  match v, index with
  | .array items, i => do return (items[← placeIn .array items.length i]?).getD .unit
  | .blob bytes, i => do
    return ((bytes[← placeIn .array bytes.length i]?).elim .unit fun b => ofNat b.toNat)
  | .map members, .text key => .ok ((members.lookup key).getD .unit)
  | .map _, i => .error (.mismatch "string" i.kind.longName)
  | .int n, .range first last closed => do
    let (low, width) ← bitSpan first last closed
    return .int (bitsIn n low width)
  | .int n, i => do return .bool (Arithmetic.bit n (← placeIn .bits 64 i))
  | .text s, .range first last closed => do
    let cs := s.toList
    let (start, after) ← sliceEnds cs.length first last closed
    return .text (String.ofList ((cs.drop start).take (after - start)))
  | .text s, i => do
    let cs := s.toList
    return (cs[← placeIn .text cs.length i]?).elim .unit .char
  | v, i => .error (.notIndexable (v.kindName ++ " [" ++ i.kindName ++ "]"))

/-- Whether an item at an index is a copy without a place of its own. -/
def isDetached : Value → Bool
  | .int _ | .text _ | .blob _ => true
  | _ => false

/-- Whether a map lacks a member of this key. -/
def lacks (v index : Value) : Bool :=
  match v, index with
  | .map members, .text key => (members.lookup key).isNone
  | _, _ => false

/-- The function that a map has as a member of this name. -/
def memberFunction? (v : Value) (name : String) : Option (String × List Value) :=
  match v with
  | .map members =>
    match members.lookup name with
    | some (.function f captured) => some (f, captured)
    | _ => none
  | _ => none

/-- The value with an item replaced; a member of a map may be new. A character of a text that is counted
from the end is put at that count from the start. -/
def setItem (v index new : Value) : Except Cause Value :=
  match v, index with
  | .array items, i => do return .array (items.set (← placeIn .array items.length i) new)
  | .blob bytes, i => do
    let n ← placeIn .array bytes.length i
    match new with
    | .int b => return .blob (bytes.set n (UInt8.ofNat (Arithmetic.bitsOf b % 256)))
    | w => .error (.mismatch "INT" w.kind.longName)
  | .map members, .text key => .ok (.map (insertMember key new members))
  | .map _, i => .error (.mismatch "string" i.kind.longName)
  | .int n, .range first last closed => do
    let (low, width) ← bitSpan first last closed
    match new with
    | .int field => return .int (withBits n low width field)
    | w => .error (.mismatch "integer" w.kind.longName)
  | .int n, i => do
    let place ← placeIn .bits 64 i
    match new with
    | .bool b => return .int (Arithmetic.setBit n place b)
    | w => .error (.mismatch "bool" w.kind.longName)
  | .text s, .range first last closed => do
    let cs := s.toList
    let (start, after) ← sliceEnds cs.length first last closed
    return .text (String.ofList (cs.take start ++ new.shown.toList ++ cs.drop after))
  | .text s, .int i => do
    let cs := s.toList
    let _ ← placeIn .text cs.length (.int i)
    match new with
    | .char c => return .text (String.ofList (cs.set i.toInt.natAbs c))
    | w => .error (.mismatch "char" w.kind.longName)
  | v, i => .error (.notIndexable (v.kindName ++ " [" ++ i.kindName ++ "]"))

end Value

/-- A value that is to be written, alone or as the right side of an operator, and where that stands. -/
structure Write where
  op : Option Operator
  value : Value
  mark : Position

/-- How a part of a run on a value ended, and what it has made of the value. A signal leaves the changes
made before it. -/
structure Reached where
  result : Except Signal Value
  changed : Option Value := none
  /-- Whether a builtin function has made the change. -/
  byBuiltin : Bool := false

/-- The variable a chain starts from, for faults that name it. -/
structure Root where
  name : String := ""
  position : Position := default

namespace Run

variable {σ : Type}

/-- What a write puts in the place of an old value. -/
def written (limits : Limits) (w : Write) (old : Value) : Run σ Value :=
  match w.op with
  | none => return w.value
  | some op =>
    match op.directInto? old w.value with
    | some r => orFail w.mark r
    | none => do
      tick limits w.mark
      match op.calledInto? old w.value with
      | some v => return v
      | none =>
        tick limits w.mark
        orFail w.mark (op.apply old w.value)

/-- A write whose new value must not be too large. -/
def writtenSized (limits : Limits) (w : Write) (old : Value) : Run σ Value := do
  let new ← written limits w old
  if w.op.isSome then sized limits w.mark new else return new

/-- A member of a map written. One that is new is there, as the unit, before it is written. -/
def writeMember (limits : Limits) (access : Access) (root : Root) (members : List (String × Value))
    (key : String) (w : Write) (check : (member whole : Value) → Run σ Unit) : Run σ Reached := do
  let old := members.lookup key
  if old.isSome && access == .constant then failAt root.position (.constantModified root.name)
  match ← outcome (written limits w (old.getD .unit)) with
  | .error s =>
    let changed := if old.isSome then none else some (.map (Value.insertMember key .unit members))
    return { result := .error s, changed }
  | .ok new =>
    let whole := Value.map (Value.insertMember key new members)
    let r ← outcome (check new whole)
    return { result := r.map fun _ => .unit, changed := some whole }

/-- A value with a property written; only maps have properties that can be written. -/
def writeProperty (limits : Limits) (access : Access) (root : Root) (v : Value) (name : String)
    (mark p : Position) (w : Write) : Run σ Reached := do
  match v with
  | .map members =>
    tick limits mark
    writeMember limits access root members name w fun _ whole => do
      let _ ← sized limits w.mark whole
  | v =>
    tick limits p
    let new ←
      if w.op.isSome then do
        let new ← written limits w (← orFail p (v.property name))
        tick limits p
        pure new
      else pure w.value
    failAt p (.unwritableProperty name v.kindName new.kindName)

/-- A value with an item written. -/
def writeItem (limits : Limits) (access : Access) (root : Root) (v index : Value) (mark p : Position)
    (w : Write) : Run σ Reached := do
  tick limits mark
  match v, index with
  | .map members, .text key =>
    writeMember limits access root members key w fun member _ => do
      let _ ← sized limits w.mark member
  | v, i =>
    match v.item i with
    | .ok old =>
      if access == .constant && !v.isDetached then
        failAt root.position (.constantModified root.name)
      let new ← sized limits w.mark (← written limits w old)
      return { result := .ok .unit, changed := some (← orFail w.mark (v.setItem index new)) }
    | .error (.notIndexable s) =>
      if w.op.isSome then tick limits mark
      tick limits mark
      failAt mark (.notIndexable (s ++ " = " ++ w.value.kindName))
    | .error c => failAt p c

end Run

end LiveForm.Script

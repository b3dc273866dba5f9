import LiveForm.Script.Builtin.Arrays
import LiveForm.Script.Builtin.Bits
import LiveForm.Script.Builtin.Blobs
import LiveForm.Script.Builtin.JsonText
import LiveForm.Script.Builtin.Maps
import LiveForm.Script.Builtin.Numbers
import LiveForm.Script.Builtin.Texts

/-!
# The table of builtin functions

A call finds the first function of its name that fits the kinds of its arguments. Operators can be called
by their signs. `Builtin.property?` reads the properties that values other than maps have.
-/

namespace LiveForm.Script.Builtin

/-- The functions on moments. -/
def moments (name : String) : Option (List Value → Option (Except Cause Outcome)) :=
  match name with
  | "timestamp" => some fun
    | [] => answer (.moment 0)
    | _ => none
  | "elapsed" => some fun
    | [.moment t] => attempt (Moment.elapsed t)
    | _ => none
  | _ => none

/-- The functions on values of every kind. -/
def general (name : String) : Option (List Value → Option (Except Cause Outcome)) :=
  match name with
  | "to_string" => some fun
    | [v] => answer (.text v.display)
    | _ => none
  | "to_debug" => some fun
    | [v] => answer (.text v.inspect)
    | _ => none
  | "print" | "debug" => some fun
    | [] | [_] => answer .unit
    | _ => none
  | "take" => some fun
    | [v] => both v .unit
    | _ => none
  | "tag" => some fun
    | [_] => answer (.int 0)
    | _ => none
  | "sleep" => some fun
    | [.int _] | [.float _] => answer .unit
    | _ => none
  | "name" => some fun
    | [.function name _] => answer (.text name)
    | _ => none
  | "is_anonymous" => some fun
    | [.function name _] => answer (.bool (Value.isClosureName name))
    | _ => none
  | _ => none

/-- An operator called by its sign. -/
def operators (name : String) : Option (List Value → Option (Except Cause Outcome)) :=
  match Operator.ofSign? name with
  | none => if name == "!" then some negation else none
  | some op => some fun
    | [a, b] =>
      match op.apply a b with
      | .error (.functionNotFound _) => none
      | r => attempt r
    | [v] =>
      match op with
      | .minus => attempt (Operator.Unary.minus.apply v)
      | .plus => attempt (Operator.Unary.plus.apply v)
      | _ => none
    | _ => none
where
  negation : List Value → Option (Except Cause Outcome)
    | [.bool b] => answer (.bool !b)
    | _ => none

/-- All functions of a name. -/
def allOf (limits : Limits) (name : String) : List (List Value → Option (Except Cause Outcome)) :=
  [texts limits name, arrays limits name, maps name, numbers name, ranges name, blobs limits name,
    bitFunctions name, jsonTexts limits name, moments name, general name, operators name].filterMap id

/-- The outcome of a call, or `none` if no function of this name fits the arguments. -/
def call (name : String) : Builtin := fun limits args =>
  (allOf limits name).findSome? fun f => f args

/-- The functions that are there to change an array, by name. -/
def arrayChanges : List String :=
  ["push", "append", "insert", "pad", "pop", "shift", "remove", "clear", "truncate", "chop", "reverse",
    "splice", "split", "dedup", "sort", "sort_by", "sort_desc", "drain", "retain", "set", "for_each", "+="]

/-- Those that change a blob. -/
def blobChanges : List String :=
  ["push", "append", "insert", "pad", "pop", "shift", "remove", "clear", "truncate", "chop", "reverse",
    "splice", "split", "drain", "retain", "set", "write_le", "write_be", "write_utf8", "write_ascii", "+="]

/-- Those that change a map. -/
def mapChanges : List String :=
  ["clear", "set", "remove", "mixin", "fill_with", "drain", "retain", "+="]

/-- Those that change a text. -/
def textChanges : List String :=
  ["append", "clear", "trim", "crop", "truncate", "pad", "replace", "remove", "pop", "set", "make_upper",
    "make_lower", "+="]

/-- Whether a function of this name is there to change a value like this one. It may do nothing to it. -/
def changes (name : String) (v : Value) : Bool :=
  name == "take" || changesKind name v
where
  changesKind (name : String) : Value → Bool
  | .array _ => arrayChanges.contains name
  | .blob _ => blobChanges.contains name
  | .map _ => mapChanges.contains name
  | .text _ => textChanges.contains name
  | .char _ => name == "make_upper" || name == "make_lower"
  | .int _ => name == "set_bit" || name == "set_bits"
  | _ => false

/-- Whether a function compares an item with those of an array. -/
def comparesItems (name : String) : Bool := name == "contains" || name == "index_of"

/-- The properties of each kind of values. -/
def ownProperty? (v : Value) (name : String) : Option (Except Cause Value) :=
  match v with
  | .text s => (textProperty? s name).map .ok
  | .array items => (countProperty? items.length name).map .ok
  | .blob bytes => (countProperty? bytes.length name).map .ok
  | .range first last closed => (rangeProperty? first last closed name).map .ok
  | .int n => ((bitProperty? n name).or (numberProperty? v name)).map .ok
  | .moment t => if name == "elapsed" then some (Moment.elapsed t) else none
  | .function f _ =>
    match name with
    | "name" => some (.ok (.text f))
    | "is_anonymous" => some (.ok (.bool (Value.isClosureName f)))
    | _ => none
  | v => (numberProperty? v name).map .ok

/-- The value of a property, or `none` if the value has no such property. -/
def property? (v : Value) (name : String) : Option (Except Cause Value) :=
  if name == "tag" then some (.ok (.int 0)) else ownProperty? v name

end LiveForm.Script.Builtin

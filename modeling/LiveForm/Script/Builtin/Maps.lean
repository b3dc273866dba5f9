import LiveForm.Script.Builtin

/-!
# Functions on maps and ranges

The members of a map are walked through in the order of their keys. A range of integers knows its ends;
`range` also makes ranges with steps.
-/

namespace LiveForm.Script.Builtin

/-- The members with those of another map put in, which win. -/
def mixedWith (members others : List (String × Value)) : List (String × Value) :=
  others.foldl (fun sum (k, v) => Value.insertMember k v sum) members

/-- The functions on maps. -/
def maps (name : String) : Option (List Value → Option (Except Cause Outcome)) :=
  match name with
  | "len" => some fun
    | [.map members] => answer (.ofNat members.length)
    | _ => none
  | "is_empty" => some fun
    | [.map members] => answer (.bool members.isEmpty)
    | _ => none
  | "contains" => some fun
    | [.map members, .text key] => answer (.bool (members.lookup key).isSome)
    | _ => none
  | "get" => some fun
    | [.map members, .text key] => answer ((members.lookup key).getD .unit)
    | _ => none
  | "set" => some fun
    | [.map members, .text key, v] => change (.map (Value.insertMember key v members))
    | _ => none
  | "clear" => some fun
    | [.map _] => change (.map [])
    | _ => none
  | "remove" => some fun
    | [.map members, .text key] =>
      match members.lookup key with
      | some v => both v (.map (members.filter (·.1 != key)))
      | none => answer .unit
    | _ => none
  | "keys" => some fun
    | [.map members] => answer (.array (members.map fun (k, _) => .text k))
    | _ => none
  | "values" => some fun
    | [.map members] => answer (.array (members.map (·.2)))
    | _ => none
  | "mixin" => some fun
    | [.map members, .map others] => change (.map (mixedWith members others))
    | _ => none
  | "fill_with" => some fun
    | [.map members, .map others] => change (.map (mixedWith others members))
    | _ => none
  | _ => none

/-- The fault of a range that would never end. -/
def endlessRange : Cause := .within "range" (.arithmetic "step value cannot be zero")

/-- The range of a step, which may not be zero. -/
def steppedRange (first last step : Int64) : Option (Except Cause Outcome) :=
  if step == 0 then fault endlessRange else answer (.steps first last step)

/-- The range of a step that has to lead on from the first number. -/
def steppedFloats (first last step : Float) : Option (Except Cause Outcome) :=
  if first + step == first then fault endlessRange else answer (.floatSteps first last step)

/-- The functions on ranges. -/
def ranges (name : String) : Option (List Value → Option (Except Cause Outcome)) :=
  match name with
  | "range" => some fun
    | [.int first, .int last] => answer (.range first last false)
    | [.int first, .int last, .int step] => steppedRange first last step
    | [.range first last false, .int step] => steppedRange first last step
    | [.float first, .float last, .float step] => steppedFloats first last step
    | _ => none
  | "start" => some fun
    | [.range first _ _] => answer (.int first)
    | _ => none
  | "end" => some fun
    | [.range _ last _] => answer (.int last)
    | _ => none
  | "is_inclusive" => some fun
    | [.range _ _ closed] => answer (.bool closed)
    | _ => none
  | "is_exclusive" => some fun
    | [.range _ _ closed] => answer (.bool !closed)
    | _ => none
  | "contains" => some fun
    | [.range first last closed, .int n] =>
      answer (.bool (first.toInt ≤ n.toInt && (n.toInt < last.toInt || closed && n == last)))
    | _ => none
  | "is_empty" => some fun
    | [.range first last closed] =>
      answer (.bool (last.toInt < first.toInt || !closed && first == last))
    | _ => none
  | _ => none

/-- The properties of ranges. -/
def rangeProperty? (first last : Int64) (closed : Bool) : String → Option Value
  | "start" => some (.int first)
  | "end" => some (.int last)
  | "is_inclusive" => some (.bool closed)
  | "is_exclusive" => some (.bool !closed)
  | "is_empty" => some (.bool (last.toInt < first.toInt || !closed && first == last))
  | _ => none

end LiveForm.Script.Builtin

import LiveForm.Json.Reader
import LiveForm.Text.Blank

/-!
# Assignments on the command line

An edit is written `id=value` and a variable `name=value`; the first equals sign divides. The value of
an edit is read as JSON where it is JSON and taken as text otherwise.
-/

namespace LiveForm

/-- The parts of a text before and after its first equals sign. -/
def splitAssignment? (raw : String) : Option (String × String) :=
  match raw.toList.span (· != '=') with
  | (_, []) => none
  | (before, _ :: after) => some (String.ofList before, String.ofList after)

/-- The id and the value of an edit, or `none` if there is no equals sign or no id before it. -/
def parseAssignment? (raw : String) : Option (String × Json) := do
  let (before, after) ← splitAssignment? raw
  let id := Text.trim before
  if id.isEmpty then none
  else return (id, (Json.read? (Text.trim after)).getD (.str after))

/-- A text value put under its name, in the order of names; a later one replaces an earlier one. -/
def insertPair (name value : String) : List (String × String) → List (String × String)
  | [] => [(name, value)]
  | (k, v) :: rest =>
    if name < k then (name, value) :: (k, v) :: rest
    else if name = k then (name, value) :: rest
    else (k, v) :: insertPair name value rest

/-- Variables in the order of their names. The error is the first text without an equals sign. -/
def parsePairs (pairs : List String) : Except String (List (String × String)) :=
  pairs.foldlM (fun sorted raw =>
    match splitAssignment? raw with
    | some (k, v) => .ok (insertPair (Text.trim k) v sorted)
    | none => .error raw) []

end LiveForm

import LiveForm.Form.Document
import LiveForm.Form.Error
import LiveForm.Json.Reader
import LiveForm.Yaml.Reader

/-!
# Reading form definitions

A definition is a text in one of two notations; the name of its file tells which. Both are read against
the same schema, so they differ in what they can get wrong and in nothing else.
-/

namespace LiveForm

/-- The notations a definition may be written in. -/
inductive Notation where
  | json
  | yaml
  deriving DecidableEq, Repr

namespace Notation

/-- What follows the last point in the last part of a path. A point at its start does not count. -/
def extension? (path : String) : Option String :=
  let name := (path.toList.reverse.dropWhile (· == '/')).takeWhile (· != '/')
  match name.span (· != '.') with
  | (_, []) | (_, ['.']) => none
  | (ending, _) => some (String.ofList ending.reverse)

/-- The notation of a file: JSON if its name ends in that, in letters of either case, and YAML
otherwise. -/
def ofFileName (path : String) : Notation :=
  if (extension? path).any fun e => e.map Char.toLower == "json" then .json else .yaml

end Notation

namespace Definition

/-- What messages call a definition. -/
def context : String := "form definition"

/-- What a definition lacks that gives none although it has been read. -/
def incomplete : Json.Error := ⟨.misfit (.missing "elements"), ⟨1, 0⟩⟩

/-- A definition read from a text. -/
def read (notated : Notation) (source : String) : Except FormError Definition :=
  match notated with
  | .json =>
    match Json.readAs schema source with
    | .ok d => (ofDatum? d).elim (.error (.malformedJson context incomplete)) .ok
    | .error e => .error (.malformedJson context e)
  | .yaml =>
    match (Yaml.readAs? schema source).bind ofDatum? with
    | some d => .ok d
    | none => .error (.malformedYaml context)

end Definition

end LiveForm

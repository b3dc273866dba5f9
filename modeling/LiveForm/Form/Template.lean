import LiveForm.Text.Word

/-!
# Templates with variables

Button labels and texts in scripts may refer to variables as `${name}`, `${name:format}` or `$name`.
`Template.pieces` cuts a template into literal text and references in one pass from left to right, and
`Template.replace` puts values for the references it knows. What it puts in is not looked at again.
-/

namespace LiveForm.Template

/-- A part of a template: literal text, or a reference with its name and the way it was written. -/
inductive Piece where
  | literal (c : Char)
  | reference (name written : List Char)
  deriving DecidableEq, Repr

/-- A run of word characters and what follows it. -/
def word (cs : List Char) : List Char × List Char := cs.span Text.isWordChar

/-- The rest of a reference after its dollar sign, and what follows it. The name is not empty, nor is
the format if there is one, and an opened brace is closed. -/
def reference? (cs : List Char) : Option ((List Char × List Char) × List Char) :=
  match cs with
  | '{' :: inner =>
    match word inner with
    | ([], _) => none
    | (name, '}' :: rest) => some ((name, '{' :: name ++ ['}']), rest)
    | (name, ':' :: after) =>
      match word after with
      | ([], _) => none
      | (format, '}' :: rest) =>
        some ((name, '{' :: name ++ ':' :: format ++ ['}']), rest)
      | _ => none
    | _ => none
  | _ =>
    match word cs with
    | ([], _) => none
    | (name, rest) => some ((name, name), rest)

/-- The pieces of a template. -/
def pieces : (fuel : Nat) → List Char → List Piece
  | 0, _ => []
  | _, [] => []
  | fuel + 1, c :: rest =>
    if c = '$' then
      match reference? rest with
      | some ((name, written), after) =>
        .reference name ('$' :: written) :: pieces fuel after
      | none => .literal c :: pieces fuel rest
    else .literal c :: pieces fuel rest

/-- The text of a piece: the value of a known name, and the text as written of an unknown one. -/
def Piece.render (values : List (String × String)) : Piece → List Char
  | .literal c => [c]
  | .reference name written =>
    match values.lookup (String.ofList name) with
    | some value => value.toList
    | none => written

/-- A template with the values of its known references. -/
def replace (values : List (String × String)) (template : String) : String :=
  let cs := template.toList
  String.ofList ((pieces cs.length cs).flatMap (·.render values))

end LiveForm.Template

namespace LiveForm

/-- Whatever puts values into a text in the place of its references. -/
structure Interpolator where
  replace : String → String

/-- The interpolator of a list of values. -/
def Interpolator.ofValues (values : List (String × String)) : Interpolator := ⟨Template.replace values⟩

instance : Coe (List (String × String)) Interpolator := ⟨.ofValues⟩

end LiveForm

import LiveForm.Form.Element
import LiveForm.Json.Printer

/-!
# Option lists from values

A hook for options answers with an array. An item is an object with a label and a value, either of
which may be left out, or a scalar that is both its label and its value. Arrays as items are refused.
-/

namespace LiveForm

/-- Why a value is no list of options. -/
inductive OptionsError where
  | notArray (kind : String)
  | nestedArray (index : Nat)
  deriving DecidableEq

def OptionsError.message : OptionsError → String
  | .notArray kind => "expected an array of options, got " ++ kind
  | .nestedArray i => "option " ++ toString i ++ " is an array"

namespace SelectOption

/-- The option an item stands for, or `none` for an array. -/
def ofItem? : Json → Option SelectOption
  | .arr _ => none
  | .obj members =>
    let value := (members.lookup "value").getD .null
    let label := match members.lookup "label" with
      | some v => v.display
      | none => value.display
    some ⟨label, value⟩
  | v => some ⟨v.display, v⟩

/-- The options of the items from an index on. -/
def ofItems (index : Nat) : List Json → Except OptionsError (List SelectOption)
  | [] => .ok []
  | v :: rest =>
    match ofItem? v with
    | none => .error (.nestedArray index)
    | some o => (ofItems (index + 1) rest).map (o :: ·)

/-- A value read as a list of options. -/
def listOfJson : Json → Except OptionsError (List SelectOption)
  | .arr items => ofItems 0 items
  | v => .error (.notArray v.kindName)

/-- The shape scripts see an option in. -/
def toJson (o : SelectOption) : Json := .object [("label", .str o.label), ("value", o.value)]

end SelectOption

end LiveForm

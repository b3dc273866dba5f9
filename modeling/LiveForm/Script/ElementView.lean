import LiveForm.Form.Options
import LiveForm.Script.Builtin
import LiveForm.Script.ValueJson

/-!
# Elements as scripts see them

Scripts get every element as a map of seven members. What a host reads back of such a map is its id and
its value (`Value.viewId?`, `Value.viewValue?`); everything else a script does to it is its own affair.

Two functions find elements by id in the arrays of views that scripts are given.
-/

namespace LiveForm.Script

/-- The members of the view of an element. -/
def viewMembers (e : Element) : List (String × Json) :=
  [("disabled", .bool e.disabled), ("id", .str e.id),
    ("options", .arr (e.effectiveOptions.map SelectOption.toJson)), ("title", .str e.title),
    ("type", .str e.type.name), ("value", e.value), ("visible", .bool e.visible)]

/-- The view of an element. -/
def elementView (e : Element) : Value := Value.ofJson (.obj (viewMembers e))

/-- The views of elements. -/
def elementViews (es : List Element) : List Value := es.map elementView

namespace Value

/-- A member of a map. -/
def member? (name : String) : Value → Option Value
  | .map members => members.lookup name
  | _ => none

/-- The id in a view, if this is a map with a text there. -/
def viewId? (v : Value) : Option String := (v.member? "id").bind asText?

/-- The value in a view, if it has a JSON form. -/
def viewValue? (v : Value) : Option Json := (v.member? "value").bind fun w => w.toJson?.toOption

end Value

/-- The first item with an id. -/
def findView? (items : List Value) (id : String) : Option Value :=
  items.find? fun v => v.viewId? == some id

/-- The functions on arrays of views. -/
def viewFunction? (name : String) (args : List Value) : Option (Except Cause Outcome) :=
  match name, args with
  | "find_element", [.array items, .text id] => Builtin.answer ((findView? items id).getD .unit)
  | "value_of", [.array items, .text id] =>
    Builtin.answer (((findView? items id).bind (Value.member? "value")).getD .unit)
  | _, _ => none

end LiveForm.Script

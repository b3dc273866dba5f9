import LiveForm.Form.Element
import LiveForm.Schema

/-!
# Definitions as documents

What a form definition has to look like (`Definition.schema`), what it means (`Definition.ofDatum?`),
and how a form and its elements are written back (`toJson`). Written records list their members in a
fixed order and leave out what is absent; hooks are left out when all of them are blank, and otherwise
written as they are. So reading what was written gives the element back, up to blank hooks
(`Element.ofJson?`, `Element.toJson`).
-/

namespace LiveForm

/-- A member that is written only if it is there. -/
def optionalMember (name : String) : Option Json → List (String × Json)
  | some v => [(name, v)]
  | none => []

namespace SelectOption

def schema : Schema :=
  .record "SelectOption"
    [{ name := "label", required := true, shape := .text },
      { name := "value", required := true, shape := .any }]

def ofDatum? (d : Datum) : Option SelectOption := do
  return { label := ← d.textAt? "label", value := ← d.valueAt? "value" }

/-- A list of options as it is written. -/
def listToJson (options : List SelectOption) : Json :=
  .arr (options.map fun o => .obj [("label", .str o.label), ("value", o.value)])

end SelectOption

namespace Hooks

def schema : Schema :=
  .record "CodeHooks"
    [{ name := "show_if", aliases := ["showIf"], shape := .optional .text },
      { name := "disable_if", aliases := ["disableIf"], shape := .optional .text },
      { name := "get_options", aliases := ["getOptions"], shape := .optional .text },
      { name := "on_value_changed", aliases := ["onValueChanged"], shape := .optional .text }]

def ofDatum (d : Datum) : Hooks :=
  { showIf := d.textAt? "show_if"
    disableIf := d.textAt? "disable_if"
    getOptions := d.textAt? "get_options"
    onValueChanged := d.textAt? "on_value_changed" }

def toJson (h : Hooks) : Json :=
  .obj (HookKind.all.flatMap fun kind => optionalMember kind.name ((h.text? kind).map .str))

end Hooks

namespace Element

def schema : Schema :=
  .record "Element"
    [{ name := "id", required := true, shape := .text },
      { name := "type", required := true, shape := .word (ElementType.all.map (·.name)) },
      { name := "title", shape := .text },
      { name := "value", shape := .any },
      { name := "disabled", shape := .flag },
      { name := "visible", shape := .flag },
      { name := "options", shape := .list SelectOption.schema },
      { name := "dynamic_options", shape := .optional (.list SelectOption.schema) },
      { name := "hooks", shape := Hooks.schema },
      { name := "action", shape := .optional .text },
      { name := "label", shape := .optional .text },
      { name := "min", shape := .optional .real },
      { name := "max", shape := .optional .real },
      { name := "step", shape := .optional .real },
      { name := "language", shape := .optional .text },
      { name := "tooltip", shape := .optional .text },
      { name := "section", shape := .optional .text }]

/-- The element a datum of the schema describes; members that are absent have their defaults. -/
def ofDatum? (d : Datum) : Option Element := do
  let options ← ((d.listAt? "options").getD []).mapM SelectOption.ofDatum?
  let dynamicOptions ← match d.listAt? "dynamic_options" with
    | some ds => some <$> ds.mapM SelectOption.ofDatum?
    | none => some none
  return {
    id := ← d.textAt? "id"
    type := ← (d.textAt? "type").bind ElementType.ofName?
    title := (d.textAt? "title").getD ""
    value := (d.valueAt? "value").getD .null
    disabled := (d.flagAt? "disabled").getD false
    visible := (d.flagAt? "visible").getD true
    options
    dynamicOptions
    hooks := ((d.get? "hooks").map Hooks.ofDatum).getD {}
    action := d.textAt? "action"
    label := d.textAt? "label"
    min := d.realAt? "min"
    max := d.realAt? "max"
    step := d.realAt? "step"
    language := d.textAt? "language"
    tooltip := d.textAt? "tooltip"
    group := d.textAt? "section" }

/-- An element read from a value. -/
def ofJson? (v : Json) : Option Element := (schema.ofJson? v).bind ofDatum?

/-- An element as it is written. -/
def toJson (e : Element) : Json :=
  .obj (
    [("id", .str e.id), ("type", .str e.type.name), ("title", .str e.title), ("value", e.value),
      ("disabled", .bool e.disabled), ("visible", .bool e.visible)] ++
    (if e.options.isEmpty then [] else [("options", SelectOption.listToJson e.options)]) ++
    optionalMember "dynamic_options" (e.dynamicOptions.map SelectOption.listToJson) ++
    (if e.hooks.isEmpty then [] else [("hooks", e.hooks.toJson)]) ++
    optionalMember "action" (e.action.map .str) ++
    optionalMember "label" (e.label.map .str) ++
    optionalMember "min" (e.min.map .ofFloat) ++
    optionalMember "max" (e.max.map .ofFloat) ++
    optionalMember "step" (e.step.map .ofFloat) ++
    optionalMember "language" (e.language.map .str) ++
    optionalMember "tooltip" (e.tooltip.map .str) ++
    optionalMember "section" (e.group.map .str))

end Element

namespace Definition

def schema : Schema :=
  .record "FormDefinition"
    [{ name := "title", shape := .optional .text },
      { name := "elements", required := true, shape := .list Element.schema }]

/-- The form a datum of the schema describes. -/
def ofDatum? (d : Datum) : Option Definition := do
  let elements ← (← d.listAt? "elements").mapM Element.ofDatum?
  return { title := d.textAt? "title", elements }

/-- A form read from a value. -/
def ofJson? (v : Json) : Option Definition := (schema.ofJson? v).bind ofDatum?

/-- A form as it is written; the title is there even if it is absent. -/
def toJson (d : Definition) : Json :=
  .obj [("title", (d.title.map Json.str).getD .null), ("elements", .arr (d.elements.map Element.toJson))]

end Definition

end LiveForm

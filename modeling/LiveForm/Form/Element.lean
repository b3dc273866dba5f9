import LiveForm.Json
import LiveForm.Text.Blank

/-!
# Elements of a form

A form is a list of elements: input controls, buttons and display fields. What an element can do hangs
on its type alone and is read off `ElementType.capabilities`; the rest of the library branches on those
flags. An element carries up to four hooks, source texts in the script language that decide whether it
is shown, whether it is disabled, which options it offers, and how it reacts to changed values.

`visible`, `disabled` and `dynamicOptions` are derived state. Whatever a definition says about them
holds until the first evaluation only.
-/

namespace LiveForm

/-- The kinds of form controls. -/
inductive ElementType where
  | text
  | number
  | textarea
  | code
  | password
  | color
  | date
  | datetime
  | time
  | slider
  | select
  | multiselect
  | radio
  | checkbox
  | boolean
  | file
  | button
  | disabled
  | disabledTextarea
  deriving DecidableEq, Repr

/-- What elements of a type support. -/
structure Capabilities where
  /-- Offers a list of options, which a hook may compute. -/
  options : Bool := false
  /-- Accepts edits. -/
  editable : Bool := false
  /-- Only displays; always disabled. -/
  readOnly : Bool := false
  /-- Runs action code. -/
  action : Bool := false
  /-- Keeps numbers between a minimum and a maximum. -/
  range : Bool := false
  /-- Holds source text of some language. -/
  code : Bool := false
  deriving DecidableEq, Repr

namespace ElementType

def all : List ElementType :=
  [.text, .number, .textarea, .code, .password, .color, .date, .datetime, .time, .slider, .select,
    .multiselect, .radio, .checkbox, .boolean, .file, .button, .disabled, .disabledTextarea]

/-- The name of a type in documents and in scripts. -/
def name : ElementType → String
  | .text => "text"
  | .number => "number"
  | .textarea => "textarea"
  | .code => "code"
  | .password => "password"
  | .color => "color"
  | .date => "date"
  | .datetime => "datetime"
  | .time => "time"
  | .slider => "slider"
  | .select => "select"
  | .multiselect => "multiselect"
  | .radio => "radio"
  | .checkbox => "checkbox"
  | .boolean => "boolean"
  | .file => "file"
  | .button => "button"
  | .disabled => "disabled"
  | .disabledTextarea => "disabled-textarea"

/-- The type of a name. -/
def ofName? (name : String) : Option ElementType := all.find? (·.name == name)

def capabilities : ElementType → Capabilities
  | .select | .multiselect | .radio => { editable := true, options := true }
  | .number | .slider => { editable := true, range := true }
  | .code => { editable := true, code := true }
  | .button => { action := true }
  | .disabled | .disabledTextarea => { readOnly := true }
  | .text | .textarea | .password | .color | .date | .datetime | .time | .checkbox | .boolean
  | .file => { editable := true }

end ElementType

/-- The four questions a hook may answer. -/
inductive HookKind where
  /-- Is the element shown? By default it is. -/
  | showIf
  /-- Is the element disabled? By default it is not. -/
  | disableIf
  /-- Which options does it offer? By default the configured ones. -/
  | getOptions
  /-- What is its new value, now that values have changed? By default the old one. -/
  | onValueChanged
  deriving DecidableEq, Repr

namespace HookKind

def all : List HookKind := [.showIf, .disableIf, .getOptions, .onValueChanged]

def name : HookKind → String
  | .showIf => "show_if"
  | .disableIf => "disable_if"
  | .getOptions => "get_options"
  | .onValueChanged => "on_value_changed"

def ofName? (name : String) : Option HookKind := all.find? (·.name == name)

/-- The parameters every hook takes: all elements, and its own. -/
def parameters : List String := ["elements", "element"]

end HookKind

/-- The parameters of action code: its own text, all elements, and the initial values. -/
def actionParameters : List String := ["code", "elements", "initial"]

/-- One choice an element offers. -/
structure SelectOption where
  label : String
  value : Json
  deriving DecidableEq

/-- The hook sources of an element. -/
structure Hooks where
  showIf : Option String := none
  disableIf : Option String := none
  getOptions : Option String := none
  onValueChanged : Option String := none
  deriving DecidableEq

namespace Hooks

/-- The text written for a hook, blank or not. -/
def text? (h : Hooks) : HookKind → Option String
  | .showIf => h.showIf
  | .disableIf => h.disableIf
  | .getOptions => h.getOptions
  | .onValueChanged => h.onValueChanged

/-- The source of a hook. A hook whose text is blank is not there. -/
def source? (h : Hooks) (kind : HookKind) : Option String :=
  (h.text? kind).filter fun s => !Text.isBlankText s

def set (h : Hooks) (kind : HookKind) (source : String) : Hooks :=
  match kind with
  | .showIf => { h with showIf := some source }
  | .disableIf => { h with disableIf := some source }
  | .getOptions => { h with getOptions := some source }
  | .onValueChanged => { h with onValueChanged := some source }

def isEmpty (h : Hooks) : Bool := HookKind.all.all fun kind => (h.source? kind).isNone

end Hooks

/-- One control of a form. -/
structure Element where
  id : String
  type : ElementType
  title : String := ""
  value : Json := .null
  disabled : Bool := false
  visible : Bool := true
  /-- The configured options. -/
  options : List SelectOption := []
  /-- The options of the last evaluation of the hook for them. -/
  dynamicOptions : Option (List SelectOption) := none
  hooks : Hooks := {}
  /-- What a button runs. -/
  action : Option String := none
  /-- What a button shows, with references to variables. -/
  label : Option String := none
  min : Option Float := none
  max : Option Float := none
  step : Option Float := none
  language : Option String := none
  tooltip : Option String := none
  group : Option String := none
  deriving DecidableEq

namespace Element

def capabilities (e : Element) : Capabilities := e.type.capabilities

/-- The options on offer: those a hook computed, else the configured ones. -/
def effectiveOptions (e : Element) : List SelectOption := e.dynamicOptions.getD e.options

end Element

/-- A form as it is written down. -/
structure Definition where
  title : Option String := none
  elements : List Element
  deriving DecidableEq

end LiveForm

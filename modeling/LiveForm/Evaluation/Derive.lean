import LiveForm.Form.Options
import LiveForm.Hook.Reply
import LiveForm.Json.Same
import LiveForm.Script.ElementView

/-!
# Derived state

Whether elements are shown, whether they are disabled, and which options they offer is asked of their
hooks, all from one view of the form. A hook that is absent, does nothing or fails leaves the default:
shown, usable, and the options of the definition. Hooks whose answer could not matter are not asked.
-/

namespace LiveForm

/-- What is derived of an element. -/
structure Derived where
  visible : Bool
  disabled : Bool
  options : Option (List SelectOption)

namespace Evaluation

variable {Program : Type}

/-- A condition asked of a hook, with a default, and the diagnostics of asking. -/
def askCondition (engine : Engine Program) (views : List Script.Value) (own : Script.Value)
    (id : String) (kind : HookKind) (default : Bool) (hook : Option (Callable Program)) :
    Bool × List Diagnostic :=
  match hook with
  | none => (default, [])
  | some hook =>
    let reply := engine.ask hook views own
    ((reply.value?.map Json.truthy).getD default, reply.diagnostics id kind)

/-- A result read as a list of options, where one is wanted. -/
def optionsOf : Reply → Option (List SelectOption) × Option ScriptError
  | .value v =>
    match SelectOption.listOfJson v with
    | .ok options => (some options, none)
    | .error e => (none, some (.result e.message))
  | .nothing => (none, none)
  | .fault e => (none, some e)

/-- Options asked of a hook, and the diagnostics of asking. -/
def askOptions (engine : Engine Program) (views : List Script.Value) (own : Script.Value)
    (id : String) (hook : Option (Callable Program)) :
    Option (List SelectOption) × List Diagnostic :=
  match hook with
  | none => (none, [])
  | some hook =>
    let (options, error) := optionsOf (engine.ask hook views own)
    (options, error.toList.map (Diagnostic.hookFault id .getOptions))

/-- What is derived of one element, and the diagnostics of asking its hooks. -/
def deriveOne (engine : Engine Program) (views : List Script.Value) (own : Script.Value) (e : Element)
    (hooks : ResolvedHooks Program) : Derived × List Diagnostic :=
  let (visible, d₁) := askCondition engine views own e.id .showIf true hooks.showIf
  let (disabled, d₂) :=
    if e.capabilities.readOnly then (true, [])
    else askCondition engine views own e.id .disableIf false hooks.disableIf
  let (options, d₃) :=
    if e.capabilities.options then askOptions engine views own e.id hooks.getOptions else (none, [])
  (⟨visible, disabled, options⟩, d₁ ++ d₂ ++ d₃)

/-- An element with what was derived of it. -/
def withDerived (e : Element) (d : Derived) : Element :=
  { e with visible := d.visible, disabled := d.disabled, dynamicOptions := d.options }

/-- Elements with what is derived of them from the given views of all. -/
def deriveEach (engine : Engine Program) (views : List Script.Value) :
    List Element → List (ResolvedHooks Program) → List Element × List Diagnostic
  | e :: es, hooks :: rest =>
    let (d, ds) := deriveOne engine views (Script.elementView e) e hooks
    let (others, more) := deriveEach engine views es rest
    (withDerived e d :: others, ds ++ more)
  | es, _ => (es, [])

/-- Elements with what is derived of them, all from their state before. -/
def derive (engine : Engine Program) (hooks : List (ResolvedHooks Program)) (es : List Element) :
    List Element × List Diagnostic :=
  deriveEach engine (Script.elementViews es) es hooks

end Evaluation

end LiveForm

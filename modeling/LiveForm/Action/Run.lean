import LiveForm.Action.Exchange
import LiveForm.Hook.Reply
import LiveForm.Panel
import LiveForm.Script.Sandbox

/-!
# Running the action of a button

The code of a button is compiled and run once, with its own text, the views of all elements and the
initial values. It ends with a value, and its edits to values in the array of elements are the changes it
wants; nothing is changed by the run itself (`Panel.applyOutcome` does that). What keeps an action from
completing is an `ActionFault`.

As for hooks, any engine will do that compiles sources and runs programs (`ActionEngine`); the runs of an action
reach an exchange besides.
-/

namespace LiveForm

/-- A script engine whose programs may also be run so that they reach an exchange. -/
structure ActionEngine (Program : Type) extends Engine Program where
  runIn : Exchange → Program → List Script.Value → Except ScriptError Invocation × Exchange

namespace Script.Sandbox

variable (limits : Limits)

/-- The sandbox with the functions that actions have. -/
def actionEngine : ActionEngine Program := { engine limits with runIn := runIn limits Exchange.function? }

@[simp] theorem actionEngine_compile (parameters : List String) (source : String) :
    (actionEngine limits).compile parameters source = compile limits parameters source := rfl

@[simp] theorem actionEngine_runIn (x : Exchange) (program : Program) (args : List Value) :
    (actionEngine limits).runIn x program args = runIn limits Exchange.function? x program args := rfl

end Script.Sandbox

/-- What a completed action comes to. -/
structure ActionOutcome where
  elementId : Option String
  value : Json
  changes : List ValueAssignment
  notifications : List String

namespace ActionRequest

open Script (Value)

/-- The arguments of the code. -/
def arguments (r : ActionRequest) : List Value :=
  [.text r.code, .array (Script.elementViews r.elements), Value.ofJson (.obj r.initial.members)]

/-- The change that a view asks for, if it is one. -/
def changeOf? (elements : List Element) (item : Value) : Option ValueAssignment := do
  let id ← item.viewId?
  let value ← item.viewValue?
  let e ← elements.find? (·.id == id)
  if e.value.same value then none else some ⟨id, value⟩

/-- The changes that the variables of a run ask for, in the order of the array. -/
def changes (r : ActionRequest) (i : Invocation) : List ValueAssignment :=
  match i.value? "elements" with
  | some (.array items) => items.filterMap (changeOf? r.elements)
  | _ => []

/-- The outcome of a run that has come to its end. -/
def outcome (r : ActionRequest) (i : Invocation) (x : Exchange) : Except ActionFault ActionOutcome :=
  match i.json? with
  | .ok value => .ok ⟨r.elementId, value, r.changes i, x.notifications⟩
  | .error e => .error (.runtime e)

/-- The run of an action by an engine, and the exchange after it. -/
def runBy {Program : Type} (engine : ActionEngine Program) (x : Exchange) (r : ActionRequest) :
    Except ActionFault ActionOutcome × Exchange :=
  match engine.compile actionParameters r.code with
  | .error e => (.error (.compile e), x)
  | .ok program =>
    match engine.runIn x program r.arguments with
    | (.ok i, x) => (r.outcome i x, x)
    | (.error e, x) => (.error (.runtime e), x)

/-- The run of an action in the sandbox. -/
def run (limits : Script.Limits) (x : Exchange) (r : ActionRequest) :
    Except ActionFault ActionOutcome × Exchange :=
  r.runBy (Script.Sandbox.actionEngine limits) x

/-- The diagnostics of a run. -/
def diagnostics (r : ActionRequest) : Except ActionFault ActionOutcome → List Diagnostic
  | .ok _ => []
  | .error fault => [.actionFault r.elementId fault]

end ActionRequest

end LiveForm

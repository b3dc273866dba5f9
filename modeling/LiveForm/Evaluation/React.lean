import LiveForm.Form.Range
import LiveForm.Hook.Reply
import LiveForm.Json.Same
import LiveForm.Script.ElementView

/-!
# Reacting to values

The hooks that react to values run in the order of the elements, each on the state that the ones before it
have left. A hook may write in three ways, and of two writes to one element the later counts: it edits
values in its copy of the elements, it edits its copy of its own element, or it returns a value for its
own element. What it writes is moved into range, and what is the same as before is no write. A hook that
fails writes nothing.

`Reaction` carries the views of the elements along and renews those that are written, so that the form is
not shown anew to every hook.
-/

namespace LiveForm

/-- The state of a pass between two hooks. -/
structure Reaction where
  elements : List Element
  /-- The views of the elements. -/
  views : List Script.Value
  /-- The ids of the elements written so far in this evaluation, first writes first. -/
  changed : List String := []
  /-- Whether this pass has written anything. -/
  dirty : Bool := false
  diagnostics : List Diagnostic := []

/-- A write of a value to the element at a place. -/
structure ValueWrite where
  place : Nat
  value : Json

namespace Evaluation

/-- The writes of an array of views, as it is after a run, in the order of its items. -/
def editWrites (elements : List Element) (views items : List Script.Value) : List ValueWrite :=
  items.filterMap fun item => do
    let id ← item.viewId?
    let value ← item.viewValue?
    let place ← elements.findIdx? (·.id == id)
    let before := ((views[place]?).bind Script.Value.viewValue?).getD .null
    if before.same value then none else some ⟨place, value⟩

/-- The write of a view of the element itself, as it is after a run. -/
def ownWrites (own : Nat) (e : Element) (view : Script.Value) : List ValueWrite :=
  match view.viewValue? with
  | some value => if e.value.same value then [] else [⟨own, value⟩]
  | none => []

/-- The writes of a run of the hook at a place, in the order they are to be made. -/
def collectWrites (elements : List Element) (views : List Script.Value) (own : Nat)
    (i : Invocation) : Except ScriptError (List ValueWrite) := do
  let edits := match i.value? "elements" with
    | some (.array items) => editWrites elements views items
    | _ => []
  let owns := match i.value? "element", elements[own]? with
    | some view, some e => ownWrites own e view
    | _, _ => []
  let result ← i.json?
  return edits ++ owns ++ if result = .null then [] else [⟨own, result⟩]

end Evaluation

namespace Reaction

/-- The start of a pass over these elements. -/
def start (elements : List Element) (changed : List String) : Reaction :=
  { elements, views := Script.elementViews elements, changed }

/-- An id noted as changed. -/
def note (changed : List String) (id : String) : List String :=
  if changed.contains id then changed else changed ++ [id]

/-- One write. -/
def write (r : Reaction) (w : ValueWrite) : Reaction :=
  match r.elements[w.place]? with
  | none => r
  | some e =>
    let value := e.clamp w.value
    if e.value.same value then r
    else
      let written := { e with value }
      { r with
        elements := r.elements.set w.place written
        views := r.views.set w.place (Script.elementView written)
        changed := note r.changed e.id
        dirty := true }

variable {Program : Type}

/-- The hook at a place, called. -/
def callAt (engine : Engine Program) (place : Nat) (hook : Callable Program) (r : Reaction) :
    Reaction :=
  match r.elements[place]?, r.views[place]? with
  | some e, some view =>
    let failed (error : ScriptError) : Reaction :=
      { r with diagnostics := r.diagnostics ++ [.hookFault e.id .onValueChanged error] }
    match engine.callHook hook r.views view with
    | .error error => failed error
    | .ok none => r
    | .ok (some i) =>
      match Evaluation.collectWrites r.elements r.views place i with
      | .error error => failed error
      | .ok writes => writes.foldl write r
  | _, _ => r

/-- The hooks from a place on, called one after the other. -/
def callFrom (engine : Engine Program) (place : Nat) (r : Reaction) :
    List (ResolvedHooks Program) → Reaction
  | [] => r
  | hooks :: rest =>
    let next := match hooks.onValueChanged with
      | some hook => r.callAt engine place hook
      | none => r
    next.callFrom engine (place + 1) rest

end Reaction

namespace Evaluation

/-- A pass of all hooks that react to values. -/
def react {Program : Type} (engine : Engine Program) (hooks : List (ResolvedHooks Program))
    (elements : List Element) (changed : List String) : Reaction :=
  (Reaction.start elements changed).callFrom engine 0 hooks

end Evaluation

end LiveForm

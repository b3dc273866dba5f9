import LiveForm.Evaluation.FixedPoint
import LiveForm.Form.Diff
import LiveForm.Form.Error
import LiveForm.Form.Template

/-!
# A running form

A `Panel` is a form that is kept evaluated. Every operation edits the published snapshot, evaluates it
to a fixed point and publishes what comes out; the caller gets the difference (`Update.diff`) and the
diagnostics of the evaluation. An operation that names an element that is not there fails and leaves the
panel as it is.
-/

namespace LiveForm

/-- The evaluation behind the published snapshot, in numbers. -/
structure Stats where
  passes : Nat := 0
  converged : Bool := false
  changed : List String := []
  faults : Nat := 0
  deriving DecidableEq

structure Panel (Program : Type) where
  engine : Engine Program
  /-- The greatest number of passes of an evaluation. -/
  limit : Nat
  title : Option String
  registry : Registry Program := {}
  published : Snapshot
  stats : Stats := {}

/-- A panel after an operation, and what the operation has to tell. -/
structure Update (Program : Type) where
  panel : Panel Program
  diff : Diff := {}
  diagnostics : List Diagnostic := []

/-- A value that an action wants an element to have. -/
structure ValueAssignment where
  id : String
  value : Json
  deriving DecidableEq

/-- What it takes to run the action of a button once. -/
structure ActionRequest where
  elementId : Option String
  code : String
  elements : List Element
  initial : Values

namespace Panel

variable {Program : Type}

/-- The evaluation of a snapshot, published. -/
def publish (p : Panel Program) (next : Snapshot) : Update Program :=
  let r := Evaluation.evaluate p.engine p.limit (p.registry.retain next.elements) next
  { panel :=
      { p with
        registry := r.registry
        published := r.snapshot
        stats := ⟨r.passes, r.converged, r.changed, r.faults⟩ }
    diff := Diff.between p.published r.snapshot
    diagnostics := r.diagnostics }

/-- A panel over a snapshot, evaluated. -/
def ofSnapshot (engine : Engine Program) (limit : Nat) (title : Option String) (s : Snapshot) :
    Update Program :=
  publish { engine, limit, title, published := s } s

/-- A panel of a form, evaluated. -/
def ofDefinition? (engine : Engine Program) (limit : Nat) (d : Definition) :
    Except FormError (Update Program) :=
  match Snapshot.ofDefinition? d with
  | .ok s => .ok (ofSnapshot engine limit d.title s)
  | .error id => .error (.duplicateElement id)

/-! ## Operations -/

/-- A value edited by the user. -/
def setValue (p : Panel Program) (id : String) (value : Json) : Except FormError (Update Program) :=
  match p.published.setValue? id value with
  | some next => .ok (p.publish next)
  | none => .error (.elementNotFound id)

/-- A whole element replaced by one of the same id, whose hooks may be others. -/
def replaceElement (p : Panel Program) (e : Element) : Except FormError (Update Program) :=
  match p.published.replace? e with
  | some next => .ok (p.publish next)
  | none => .error (.elementNotFound e.id)

/-- Values that come from outside; ids that are not there are passed over. -/
def refresh (p : Panel Program) (values : Values) : Update Program :=
  p.publish (p.published.setValues values)

/-- Other initial values, which the elements are set to. -/
def loadInitial (p : Panel Program) (initial : Values) : Update Program :=
  p.publish (p.published.setInitial initial)

/-- Every element set to its initial value. -/
def reset (p : Panel Program) : Update Program :=
  p.publish (p.published.setValues p.published.initial)

/-- The values an outcome sets, the last one for every id that is there. -/
def knownValues (p : Panel Program) (changes : List ValueAssignment) : Values :=
  .ofList ((changes.filter fun c => p.published.contains c.id).map fun c => (c.id, c.value))

/-- The edits of an action made. An outcome without any leaves everything as it is. -/
def applyOutcome (p : Panel Program) (changes : List ValueAssignment) : Update Program :=
  let values := p.knownValues changes
  if values.members.isEmpty then { panel := p } else p.refresh values

/-! ## Questions -/

/-- What it takes to run the action of a button. -/
def actionRequest (p : Panel Program) (id : String) : Except FormError ActionRequest :=
  match p.published.get? id with
  | none => .error (.elementNotFound id)
  | some e =>
    if e.capabilities.action then
      .ok
        { elementId := some id
          code := e.action.getD ""
          elements := p.published.elements
          initial := p.published.initial }
    else .error (.notAButton id)

/-- The source of an action, unless it is blank. -/
def actionSource? (e : Element) : Option String := e.action.filter fun s => !Text.isBlankText s

/-- The diagnostic of an action that does not compile. -/
def actionFlaw? (engine : Engine Program) (e : Element) : Option Diagnostic :=
  match (actionSource? e).map (engine.compile actionParameters) with
  | some (.error error) => some (.actionCompileError e.id error)
  | _ => none

/-- The diagnostics of all actions that do not compile. -/
def checkActions (p : Panel Program) : List Diagnostic :=
  p.published.elements.filterMap (actionFlaw? p.engine)

/-- The label of a button, with variables put in; without a label it is the title. -/
def buttonLabel? (p : Panel Program) (id : String) («variables» : Interpolator) : Option String :=
  (p.published.get? id).map fun e => «variables».replace (e.label.getD e.title)

end Panel

end LiveForm

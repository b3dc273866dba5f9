import LiveForm.Action.Run
import LiveForm.Form.Document
import LiveForm.Trace.Document

/-!
# Reports

A report is an evaluated form together with what went wrong on the way and, if an action was run, what
came of it. It is written as a document whose members stand in a fixed order.
-/

namespace LiveForm

structure Report where
  title : Option String
  stats : Stats
  elements : List Element
  diagnostics : List Diagnostic
  action : Option ActionOutcome := none
  /-- The message of an action that did not complete. -/
  actionError : Option String := none

namespace Stats

def members (s : Stats) : List (String × Json) :=
  [("passes", .nat s.passes), ("converged", .bool s.converged),
    ("changed", .arr (s.changed.map .str)), ("faults", .nat s.faults)]

def toJson (s : Stats) : Json := .obj s.members

end Stats

namespace ValueAssignment

def toJson (a : ValueAssignment) : Json := .obj [("id", .str a.id), ("value", a.value)]

end ValueAssignment

namespace ActionOutcome

def toJson (o : ActionOutcome) : Json :=
  .obj [("element_id", (o.elementId.map .str).getD .null), ("value", o.value),
    ("changes", .arr (o.changes.map ValueAssignment.toJson)),
    ("notifications", .arr (o.notifications.map .str))]

end ActionOutcome

namespace Report

/-- The report on a panel. -/
def ofPanel {Program : Type} (p : Panel Program) (diagnostics : List Diagnostic) : Report :=
  { title := p.title, stats := p.stats, elements := p.published.elements, diagnostics }

def count (r : Report) (kind : Diagnostic.Kind) : Nat :=
  (r.diagnostics.filter (·.kind == kind)).length

/-- Whether everything compiled and no action failed. -/
def isClean (r : Report) : Bool := r.count .compileError == 0 && r.actionError.isNone

/-- A report as it is written. `diagnosticJson` writes a diagnostic, with or without a time. -/
def toJson (diagnosticJson : Diagnostic → Json) (r : Report) : Json :=
  .obj (optionalMember "title" (r.title.map .str) ++
    [("evaluation", r.stats.toJson), ("elements", .arr (r.elements.map Element.toJson)),
      ("diagnostics", .arr (r.diagnostics.map diagnosticJson))] ++
    optionalMember "action" (r.action.map ActionOutcome.toJson) ++
    optionalMember "action_error" (r.actionError.map .str))

end Report

end LiveForm

import LiveForm.Json.Printer
import LiveForm.Json.Same
import LiveForm.Report.Model
import LiveForm.Text.Blank

/-!
# Reports for a terminal

The elements come first, one a line, in columns; then the evaluation with its diagnostics; then the
action, if one was run.
-/

namespace LiveForm

namespace Report

/-- A text filled up with blanks to so many characters. -/
def column (width : Nat) (s : String) : String :=
  s ++ String.ofList (List.replicate (width - s.length) ' ')

/-- What is remarkable about an element. -/
def flags (e : Element) : List String :=
  (if e.visible then [] else ["[hidden]"]) ++ (if e.disabled then ["[disabled]"] else []) ++
    (if e.capabilities.options then
      ["\x7b" ++ ", ".intercalate (e.effectiveOptions.map (·.label)) ++ "\x7d"]
    else [])

/-- The line of an element, with its id in a column of a width. -/
def elementLine (width : Nat) (e : Element) : String :=
  let line := "  " ++ column width e.id ++ "  " ++ column 17 e.type.name ++ "  " ++
    column 12 e.value.display
  match flags e with
  | [] => Text.trimEnd line
  | flags => line ++ " " ++ " ".intercalate flags

/-- The word that marks a kind of diagnostics. -/
def marker : Diagnostic.Kind → String
  | .compileError => "COMPILE"
  | .hookFault => "FAULT"
  | .convergenceExceeded => "LOOP"
  | .actionFault => "ACTION"

def diagnosticLine (d : Diagnostic) : String :=
  "    [" ++ marker d.kind ++ "] " ++ d.elementId.getD "-" ++ " (" ++ d.source.name ++ "): " ++ d.detail

/-- The lines about an action that completed. -/
def actionLines (o : ActionOutcome) : List String :=
  ["", "=== Action: " ++ o.elementId.getD "-" ++ " ==="] ++
    (if o.value = .null then [] else ["    returned: " ++ o.value.compact]) ++
    o.changes.map (fun c => "    set " ++ c.id ++ " = " ++ c.value.compact) ++
    o.notifications.map ("    notice: " ++ ·)

/-- The lines about the evaluation. -/
def evaluationLines (r : Report) : List String :=
  let state := (if r.stats.converged then "converged in " else "did not converge after ") ++
    toString r.stats.passes ++ " passes"
  ["", "=== Evaluation: " ++ state ++ ", " ++ toString r.stats.faults ++ " faults ==="] ++
    (if r.stats.changed.isEmpty then []
    else ["    changed by hooks: " ++ ", ".intercalate r.stats.changed]) ++
    r.diagnostics.map diagnosticLine

/-- The width of the column of ids: the bytes of the longest one, and at least four. -/
def idWidth (es : List Element) : Nat := es.foldl (fun w e => max w e.id.utf8ByteSize) 4

/-- The lines of a report. -/
def consoleLines (r : Report) : List String :=
  ["=== Form: " ++ r.title.getD "(untitled)" ++ " ===", ""] ++
    r.elements.map (elementLine (idWidth r.elements)) ++ r.evaluationLines ++
    (r.action.map actionLines).getD [] ++
    (r.actionError.map fun e => ["", "=== Action failed: " ++ e ++ " ==="]).getD []

/-- A report for a terminal. -/
def console (r : Report) : String := String.join (r.consoleLines.map (· ++ "\n"))

end Report

end LiveForm

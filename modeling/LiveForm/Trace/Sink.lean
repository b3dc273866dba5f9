import LiveForm.Trace.Document

/-!
# Where diagnostics go

A sink takes diagnostics. A collector keeps them until they are drained, a log appends a line to a file,
a silent sink forgets them, and a fanout hands each one to several sinks in order, of which some may be
the same. What collectors and files hold is a `Deliveries` store; reporting is a function on it.
-/

namespace LiveForm

/-- A way for diagnostics to go. Collectors and files have names, so that one of them may stand at
several places of a fanout. -/
inductive Sink where
  | collector (name : String)
  /-- A log in a file; a log whose file could not be opened keeps nothing. -/
  | log (file : String) (opened : Bool)
  | silent
  | fanout (sinks : List Sink)

/-- What has been delivered and not taken away. -/
structure Deliveries where
  collected : List (String × Diagnostic) := []
  written : List (String × Diagnostic) := []
  deriving DecidableEq

namespace Deliveries

/-- What a collector holds. -/
def entries (name : String) (s : Deliveries) : List Diagnostic :=
  (s.collected.filter (·.1 == name)).map (·.2)

/-- What has been written to a file. -/
def logged (file : String) (s : Deliveries) : List Diagnostic :=
  (s.written.filter (·.1 == file)).map (·.2)

/-- The text of a file, line by line. -/
def logText (file : String) (s : Deliveries) : List String := (s.logged file).map Diagnostic.logLine

/-- How many of a kind a collector holds. -/
def count (name : String) (kind : Diagnostic.Kind) (s : Deliveries) : Nat :=
  (s.entries name).countP (·.kind == kind)

/-- What a collector holds, taken away. -/
def drain (name : String) (s : Deliveries) : List Diagnostic × Deliveries :=
  (s.entries name, { s with collected := s.collected.filter (·.1 != name) })

end Deliveries

namespace Sink

mutual

/-- A diagnostic handed to a sink. -/
def report (d : Diagnostic) : Sink → Deliveries → Deliveries
  | .collector name, s => { s with collected := s.collected ++ [(name, d)] }
  | .log file opened, s =>
    if opened then { s with written := s.written ++ [(file, d)] } else s
  | .silent, s => s
  | .fanout sinks, s => reportEach d sinks s

/-- A diagnostic handed to each of several sinks in order. -/
def reportEach (d : Diagnostic) : List Sink → Deliveries → Deliveries
  | [], s => s
  | sink :: rest, s => reportEach d rest (sink.report d s)

end

/-- Several diagnostics handed to a sink in order. -/
def reportAll (sink : Sink) (ds : List Diagnostic) (s : Deliveries) : Deliveries :=
  ds.foldl (fun s d => sink.report d s) s

end Sink

end LiveForm

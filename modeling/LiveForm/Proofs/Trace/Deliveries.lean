import LiveForm.Proofs.Trace.LogLine
import LiveForm.Trace.Sink

/-!
# No diagnostic is lost

A fanout may hold other fanouts, and a collector or a log may stand at several places in it. What one report does is
said by the places alone (`Sink.report_eq`): it puts the diagnostic behind everything that is there, once for each
place. Draining takes away what a collector holds and leaves everything else. So whatever is reported and drained in
whatever order, what has come to a collector, taken away or not, and what has come to a file only grow at the end
(`Course.arrived_step`, `Course.logged_step`), and are the reports in their order (`Course.arrived_run`,
`Course.logged_run`).
-/

namespace LiveForm

namespace Sink

/-! ## Places -/

mutual

/-- The places where a diagnostic ends up, in order: a fanout hands it on. -/
def leaves : Sink → List Sink
  | .collector name => [.collector name]
  | .log file opened => [.log file opened]
  | .silent => [.silent]
  | .fanout sinks => leavesOfEach sinks

def leavesOfEach : List Sink → List Sink
  | [] => []
  | sink :: rest => sink.leaves ++ leavesOfEach rest

end

def collector? : Sink → Option String
  | .collector name => some name
  | _ => none

/-- The file of a log that could be opened. -/
def file? : Sink → Option String
  | .log file true => some file
  | _ => none

/-- The collectors in a sink, each as often as it stands there. -/
def collectors (sink : Sink) : List String := sink.leaves.filterMap collector?

/-- The files that a sink writes to, each as often as an open log of it stands there. -/
def files (sink : Sink) : List String := sink.leaves.filterMap file?

mutual

/-- **A report reaches every place once**, behind what is there. -/
theorem report_eq (d : Diagnostic) : ∀ (sink : Sink) (s : Deliveries), sink.report d s =
    { collected := s.collected ++ sink.collectors.map (·, d)
      written := s.written ++ sink.files.map (·, d) }
  | .collector name, s => congrArg (Deliveries.mk (s.collected ++ [(name, d)])) (List.append_nil s.written).symm
  | .log file true, s => congrArg (Deliveries.mk · (s.written ++ [(file, d)])) (List.append_nil s.collected).symm
  | .log file false, s => congrArg₂ Deliveries.mk (List.append_nil s.collected).symm (List.append_nil s.written).symm
  | .silent, s => congrArg₂ Deliveries.mk (List.append_nil s.collected).symm (List.append_nil s.written).symm
  | .fanout sinks, s => by
    rw [report, reportEach_eq d sinks s, collectors, files, leaves]

theorem reportEach_eq (d : Diagnostic) : ∀ (sinks : List Sink) (s : Deliveries), reportEach d sinks s =
    { collected := s.collected ++ ((leavesOfEach sinks).filterMap collector?).map (·, d)
      written := s.written ++ ((leavesOfEach sinks).filterMap file?).map (·, d) }
  | [], s => congrArg₂ Deliveries.mk (List.append_nil s.collected).symm (List.append_nil s.written).symm
  | sink :: rest, s => by
    rw [reportEach, reportEach_eq d rest, report_eq d sink s, leavesOfEach, List.filterMap_append,
      List.filterMap_append, List.map_append, List.map_append, ← List.append_assoc, ← List.append_assoc, collectors,
      files]

end

end Sink

namespace Deliveries

/-! ## What a report and a drain change -/

/-- As many copies as there are places. -/
theorem filter_places (names : List String) (name : String) (d : Diagnostic) :
    ((names.map (·, d)).filter (·.1 == name)).map (·.2) = List.replicate (names.count name) d := by
  have hname : ((fun p : String × Diagnostic => p.1 == name) ∘ (·, d)) = (· == name) := rfl
  rw [List.filter_map, hname, List.filter_beq, List.map_replicate, List.map_replicate]

theorem entries_report (name : String) (sink : Sink) (d : Diagnostic) (s : Deliveries) :
    (sink.report d s).entries name = s.entries name ++ List.replicate (sink.collectors.count name) d := by
  rw [Sink.report_eq, entries, List.filter_append, List.map_append, filter_places, entries]

theorem logged_report (file : String) (sink : Sink) (d : Diagnostic) (s : Deliveries) :
    (sink.report d s).logged file = s.logged file ++ List.replicate (sink.files.count file) d := by
  rw [Sink.report_eq, logged, List.filter_append, List.map_append, filter_places, logged]

/-- A drained collector holds nothing. -/
theorem entries_drain_self (name : String) (s : Deliveries) : (s.drain name).2.entries name = [] := by
  rw [drain, entries, List.filter_filter, List.map_eq_nil_iff, List.filter_eq_nil_iff]
  rintro entry -
  rw [bne, Bool.and_not_self]
  exact Bool.false_ne_true

/-- The others hold what they held. -/
theorem entries_drain_of_ne {name other : String} (h : other ≠ name) (s : Deliveries) :
    (s.drain name).2.entries other = s.entries other := by
  rw [drain, entries, List.filter_filter, entries]
  refine congrArg _ (List.filter_congr fun entry _ => ?_)
  cases hentry : entry.1 == other with
  | false => rfl
  | true =>
    rw [beq_iff_eq.1 hentry, Bool.true_and]
    exact bne_iff_ne.2 h

end Deliveries

/-! ## Reports and drains in any order -/

/-- What is done: a diagnostic is reported, or a collector is drained. -/
inductive Use where
  | report (d : Diagnostic)
  | drain (name : String)

/-- The diagnostic that is reported. -/
def Use.report? : Use → Option Diagnostic
  | .report d => some d
  | .drain _ => none

/-- What has been drained so far, and from which collector, and what is held now. -/
structure Course where
  drained : List (String × Diagnostic) := []
  deliveries : Deliveries := {}

namespace Course

/-- One thing done. -/
def step (sink : Sink) (c : Course) : Use → Course
  | .report d => { c with deliveries := sink.report d c.deliveries }
  | .drain name =>
    let (taken, deliveries) := c.deliveries.drain name
    { drained := c.drained ++ taken.map (name, ·), deliveries }

/-- Everything done, one after the other. -/
def run (sink : Sink) (uses : List Use) (c : Course) : Course := uses.foldl (step sink) c

/-- What the drains of a collector returned, one after the other. -/
def returned (name : String) (c : Course) : List Diagnostic := (c.drained.filter (·.1 == name)).map (·.2)

/-- What has come to a collector: what its drains returned, and what it holds. -/
def arrived (name : String) (c : Course) : List Diagnostic := c.returned name ++ c.deliveries.entries name

/-- The reports in their order, each as often as its place stands in the sink. -/
def reported (places : Nat) (uses : List Use) : List Diagnostic :=
  (uses.filterMap Use.report?).flatMap (List.replicate places)

theorem reported_append (places : Nat) (uses more : List Use) :
    reported places (uses ++ more) = reported places uses ++ reported places more := by
  rw [reported, List.filterMap_append, List.flatMap_append, reported, reported]

theorem reported_report (places : Nat) (d : Diagnostic) :
    reported places [.report d] = List.replicate places d := List.append_nil _

/-- What a drain takes it returns. -/
theorem returned_drain_self (name : String) (sink : Sink) (c : Course) :
    (c.step sink (.drain name)).returned name = c.returned name ++ c.deliveries.entries name := by
  have htaken (ds : List Diagnostic) : ((ds.map (name, ·)).filter (·.1 == name)).map (·.2) = ds := by
    have hall : (ds.map (name, ·)).filter (·.1 == name) = ds.map (name, ·) :=
      List.filter_eq_self.2 (by simp)
    rw [hall, List.map_map]
    exact List.map_id ds
  rw [returned, step, Deliveries.drain, List.filter_append, List.map_append, htaken, returned]

theorem returned_drain_of_ne {name other : String} (h : other ≠ name) (sink : Sink) (c : Course) :
    (c.step sink (.drain other)).returned name = c.returned name := by
  have htaken (ds : List Diagnostic) : (ds.map (other, ·)).filter (·.1 == name) = [] :=
    List.filter_eq_nil_iff.2 (by simp [h])
  rw [returned, step, Deliveries.drain, List.filter_append, htaken, List.append_nil, returned]

/-- **One step adds at the end** of what has come to a collector: a report its diagnostic, a drain nothing. -/
theorem arrived_step (name : String) (sink : Sink) (c : Course) (use : Use) :
    (c.step sink use).arrived name = c.arrived name ++ reported (sink.collectors.count name) [use] := by
  cases use with
  | report d =>
    have hreturned : (c.step sink (.report d)).returned name = c.returned name := rfl
    rw [arrived, hreturned, step, Deliveries.entries_report, arrived, reported_report, List.append_assoc]
  | drain other =>
    have hnothing : reported (sink.collectors.count name) [.drain other] = [] := rfl
    rw [hnothing, List.append_nil, arrived, arrived]
    by_cases hother : other = name
    · subst hother
      have hempty : (c.step sink (.drain other)).deliveries.entries other = [] :=
        c.deliveries.entries_drain_self other
      rw [returned_drain_self, hempty, List.append_nil]
    · have hkept : (c.step sink (.drain other)).deliveries.entries name = c.deliveries.entries name :=
        Deliveries.entries_drain_of_ne (Ne.symm hother) c.deliveries
      rw [returned_drain_of_ne hother, hkept]

/-- The same of a file, from which nothing is taken away. -/
theorem logged_step (file : String) (sink : Sink) (c : Course) (use : Use) :
    (c.step sink use).deliveries.logged file =
      c.deliveries.logged file ++ reported (sink.files.count file) [use] := by
  cases use with
  | report d => rw [step, Deliveries.logged_report, reported_report]
  | drain other => exact (List.append_nil _).symm

/-- What every step adds to at the end, a run adds to at the end: the reports, each for every place. -/
theorem run_of_step (view : Course → List Diagnostic) {places : Nat} {sink : Sink}
    (h : ∀ c use, view (step sink c use) = view c ++ reported places [use]) (uses : List Use) (c : Course) :
    view (run sink uses c) = view c ++ reported places uses := by
  induction uses generalizing c with
  | nil => exact (List.append_nil _).symm
  | cons use uses ih =>
    have hrun : run sink (use :: uses) c = run sink uses (step sink c use) := rfl
    rw [hrun, ih, h, List.append_assoc, ← reported_append, List.singleton_append]

/-- **What comes to a collector** in a run. -/
theorem arrived_run (name : String) (sink : Sink) (uses : List Use) (c : Course) :
    (run sink uses c).arrived name = c.arrived name ++ reported (sink.collectors.count name) uses :=
  run_of_step (arrived name) (arrived_step name sink) uses c

/-- **What comes to a file** in a run. -/
theorem logged_run (file : String) (sink : Sink) (uses : List Use) (c : Course) :
    (run sink uses c).deliveries.logged file =
      c.deliveries.logged file ++ reported (sink.files.count file) uses :=
  run_of_step (·.deliveries.logged file) (logged_step file sink) uses c

end Course

/-! ## Files -/

/-- The text of a file with these lines, each one ended. -/
def textOfLines (lines : List String) : String := String.join (lines.map (· ++ "\n"))

/-- Lines without line breaks are the parts of their text, and nothing follows the last one. -/
theorem splitOn_textOfLines {lines : List String} (h : ∀ line ∈ lines, '\n' ∉ line.toList) :
    (textOfLines lines).toList.splitOn '\n' = lines.map String.toList ++ [[]] := by
  induction lines with
  | nil => rfl
  | cons line lines ih =>
    have htext : (textOfLines (line :: lines)).toList = line.toList ++ '\n' :: (textOfLines lines).toList := by
      simp [textOfLines, String.join_cons]
    rw [htext, List.splitOn_append_cons_self_of_not_mem (h line List.mem_cons_self),
      ih fun l hl => h l (List.mem_cons_of_mem line hl)]
    rfl

namespace Course

/-- The lines of a file after a run that has found it empty. -/
def lines (file : String) (sink : Sink) (uses : List Use) : List String := (run sink uses {}).deliveries.logText file

/-- There is one line for each report and each place of the log. -/
theorem lines_eq (file : String) (sink : Sink) (uses : List Use) :
    lines file sink uses = (reported (sink.files.count file) uses).map Diagnostic.logLine := by
  have hnothing : ({} : Course).deliveries.logged file = [] := rfl
  rw [lines, Deliveries.logText, logged_run, hnothing, List.nil_append]

/-- **No diagnostic is lost, doubled or put in another place.** Whatever diagnostics are reported to a fanout of any
shape, and whatever collectors are drained in between: what the drains of a collector returned, one after the other,
and then what it holds, are the reported diagnostics in their order, with their times, each one as often as the
collector stands in the fanout. A file to which nothing had been written holds one line for each report and each place
of its log, in the same order: its text is these lines and has no other line breaks, and every line tells the
diagnostic it stands for, whatever time and text this has. -/
theorem nothing_lost (sink : Sink) (uses : List Use) :
    (∀ name, (run sink uses {}).returned name ++ (run sink uses {}).deliveries.entries name =
      reported (sink.collectors.count name) uses) ∧
    ∀ file, (run sink uses {}).deliveries.logged file = reported (sink.files.count file) uses ∧
      (textOfLines (lines file sink uses)).toList.splitOn '\n' = (lines file sink uses).map String.toList ++ [[]] ∧
      List.Forall₂ Diagnostic.Tells (lines file sink uses) (reported (sink.files.count file) uses) := by
  refine ⟨fun name => arrived_run name sink uses {}, fun file => ⟨logged_run file sink uses {}, ?_, ?_⟩⟩
  · refine splitOn_textOfLines fun line hline => ?_
    rw [lines_eq] at hline
    obtain ⟨d, -, rfl⟩ := List.mem_map.1 hline
    exact d.newline_notMem_logLine
  · rw [lines_eq, List.forall₂_map_left_iff, List.forall₂_same]
    exact fun d _ => d.logLine_tells

/-- A collector at two places, drained between two reports. -/
example (d e : Diagnostic) :
    (run (.fanout [.collector "errors", .fanout [.log "trace" true, .collector "errors"]])
      [.report d, .drain "errors", .report e] {}).arrived "errors" = [d, d, e, e] := rfl

end Course

end LiveForm

import LiveForm.Proofs.Evaluation.Convergence
import LiveForm.Proofs.Evaluation.Rest
import LiveForm.Proofs.Script.FirstValue

/-!
# The limit of passes

How many passes may run decides where an evaluation is cut off and nothing else (`limit_cuts_short`). One
that converges makes the same passes under every limit that leaves room for them, and under a lower limit it
stops when that many have run.

A capped evaluation ends with a derivation that an evaluation with more passes would not have made at this
point. Where the hooks for flags and options are flag-blind this is the derivation that the next pass starts
with. So evaluating again what a capped evaluation has left goes on where it stopped (`run_add`).
-/

namespace LiveForm.Evaluation

variable {Program : Type} {engine : Engine Program}

/-! ## Going on -/

/-- A pass goes by what it derives, wherever that was derived from. -/
theorem pass_eq_of_derive {hooks : List (ResolvedHooks Program)} {p q : Progress}
    (h : (derive engine hooks p.elements).1 = (derive engine hooks q.elements).1) :
    (pass engine hooks p).elements = (pass engine hooks q).elements ∧
      (pass engine hooks p).converged = (pass engine hooks q).converged := by
  -- the two have written different elements before, which neither writing nor convergence hangs on
  have helements (p : Progress) : (pass engine hooks p).elements =
      (react engine hooks (derive engine hooks p.elements).1 []).elements := react_elements engine _ _ _
  have hconverged (p : Progress) : (pass engine hooks p).converged =
      !(react engine hooks (derive engine hooks p.elements).1 []).dirty :=
    congrArg (!·) (react_dirty engine _ _ _)
  rw [helements, helements, hconverged, hconverged, h]
  exact ⟨rfl, rfl⟩

/-- So do all passes that follow, and the derivation after the last one. -/
theorem settle_eq_of_derive {hooks : List (ResolvedHooks Program)} {p q : Progress}
    (h : (derive engine hooks p.elements).1 = (derive engine hooks q.elements).1) (left : Nat) :
    let here := settle engine hooks (iterate engine hooks (left + 1) p)
    let there := settle engine hooks (iterate engine hooks (left + 1) q)
    here.elements = there.elements ∧ here.converged = there.converged := by
  intro here there
  obtain ⟨helements, hconverged⟩ := iterate_related engine hooks
    (R := fun p q => p.elements = q.elements ∧ p.converged = q.converged) (fun _ _ h => h.2)
    (fun p q h => pass_eq_of_derive (by rw [h.1])) left (pass_eq_of_derive h)
  have hends : here.converged = there.converged := by
    rw [settle_converged, settle_converged, hconverged]
  refine ⟨?_, hends⟩
  simp only [here, there, settle, hconverged]
  split
  · exact helements
  · rw [helements]

/-- **Going on.** Evaluating what an evaluation has left comes to what one evaluation with the passes of both
comes to. -/
theorem run_add {es : List Element} (hblind : ∀ e ∈ es, engine.AsksFlagBlind e) {first more : Nat}
    (hfirst : 1 ≤ first) (hmore : 1 ≤ more) :
    let left := (run engine (es.map engine.hooksOf) first es).elements
    let resumed := run engine (left.map engine.hooksOf) more left
    let whole := run engine (es.map engine.hooksOf) (first + more) es
    resumed.elements = whole.elements ∧ resumed.converged = whole.converged := by
  intro left resumed whole
  have hfits : Fits engine left := run_fits hblind first
  have hhooks : left.map engine.hooksOf = es.map engine.hooksOf :=
    Engine.map_hooksOf_eq engine (run_frame engine _ first es)
  generalize hstop : iterate engine (es.map engine.hooksOf) first { elements := es } = stop
  have hleft : run engine (es.map engine.hooksOf) first es =
      settle engine (es.map engine.hooksOf) stop := by
    rw [run, Nat.max_eq_left hfirst, hstop]
  have hwhole : whole = settle engine (es.map engine.hooksOf)
      (if stop.converged then stop
        else iterate engine (es.map engine.hooksOf) more stop) := by
    simp only [whole, run, Nat.max_eq_left (Nat.le_add_right_of_le hfirst)]
    rw [iterate_add engine _ first more rfl, hstop]
  cases hconverged : stop.converged with
  | true =>
    -- the passes have come to an end already, and the form is at rest
    rw [hconverged, if_pos rfl, ← hleft] at hwhole
    have hends : (run engine (es.map engine.hooksOf) first es).converged = true := by
      rw [hleft, settle_converged, hconverged]
    obtain ⟨-, hagain, -, hsame⟩ := run_of_rest hfits (run_quiet hends) more
    rw [hwhole, hends]
    exact ⟨hsame, hagain⟩
  | false =>
    -- the flags that are left are those that the next pass would have derived
    have hderived : (derive engine (es.map engine.hooksOf) left).1 =
        (derive engine (es.map engine.hooksOf) stop.elements).1 := by
      rw [← hhooks, hfits, hhooks]
      simp only [left, hleft, settle, hconverged, Bool.false_eq_true, if_false]
    rw [hconverged, if_neg Bool.false_ne_true] at hwhole
    obtain ⟨more, rfl⟩ := Nat.exists_eq_add_of_le' hmore
    simp only [hwhole, resumed, run, hhooks, Nat.max_eq_left hmore]
    exact settle_eq_of_derive (p := { elements := left }) hderived more

/-! ## Evaluations under other limits -/

/-- A run that converges, under other limits. -/
theorem run_of_converged {hooks : List (ResolvedHooks Program)} {limit : Nat} {es : List Element}
    (h : (run engine hooks limit es).converged = true) :
    (∀ other, (run engine hooks limit es).passes ≤ other →
        run engine hooks other es = run engine hooks limit es) ∧
      ∀ other, 1 ≤ other → other < (run engine hooks limit es).passes →
        (run engine hooks other es).converged = false ∧
          (run engine hooks other es).passes = other := by
  rw [run_converged] at h
  obtain ⟨k, hpasses, hmore, hless⟩ := exists_iterate_passes engine hooks rfl h
  rw [run_passes, hpasses, Nat.zero_add]
  refine ⟨fun other hother => ?_, fun other hother hlt => ?_⟩
  · rw [run, run, hmore _ (hother.trans (Nat.le_max_left other 1))]
  · obtain ⟨hconverged, hother'⟩ := hless other hlt
    rw [run_converged, run_passes, Nat.max_eq_left hother]
    exact ⟨hconverged, hother'.trans (Nat.zero_add other)⟩

/-- **The limit cuts short**, and nothing else. An evaluation that converges has the same outcome under every
limit that its passes fit in, with whatever registry. Under a lower one, not less than one pass, it makes as
many as it may and does not converge. And if the hooks for flags and options are flag-blind, nothing is lost
at the limit: evaluating again what has been left gives the snapshot that evaluating with all the passes at
once gives, and converges just if that does. -/
theorem limit_cuts_short (engine : Engine Program) (s : Snapshot) :
    (∀ (limit : Nat) (r : Registry Program), r.Sound engine →
      let outcome := evaluate engine limit r s
      outcome.converged = true → ∀ (limit' : Nat) (r' : Registry Program), r'.Sound engine →
        let other := evaluate engine limit' r' s
        (outcome.passes ≤ limit' →
          other.converged = true ∧ other.snapshot = outcome.snapshot ∧
            other.passes = outcome.passes ∧ other.changed = outcome.changed ∧
            other.faults = outcome.faults) ∧
        (1 ≤ limit' → limit' < outcome.passes →
          other.converged = false ∧ other.passes = limit')) ∧
    ((∀ e ∈ s.elements, engine.AsksFlagBlind e) →
      ∀ (first more : Nat) (r r' r'' : Registry Program), 1 ≤ first → 1 ≤ more →
        r.Sound engine → r'.Sound engine → r''.Sound engine →
        let resumed := evaluate engine more r' (evaluate engine first r s).snapshot
        let whole := evaluate engine (first + more) r'' s
        resumed.snapshot = whole.snapshot ∧ resumed.converged = whole.converged) := by
  constructor
  · intro limit r hr outcome hconverged limit' r' hr' other
    have hconverges : outcome.converged = _ := evaluate_converged hr
    have hpasses : outcome.passes = _ := evaluate_passes hr
    have hchanged : outcome.changed = _ := evaluate_changed hr
    have hfaults : outcome.faults = _ := evaluate_faults hr
    have hsnapshot : outcome.snapshot = _ := evaluate_snapshot hr
    have hconverges' : other.converged = _ := evaluate_converged hr'
    have hpasses' : other.passes = _ := evaluate_passes hr'
    have hchanged' : other.changed = _ := evaluate_changed hr'
    have hfaults' : other.faults = _ := evaluate_faults hr'
    have hsnapshot' : other.snapshot = _ := evaluate_snapshot hr'
    obtain ⟨hmore, hless⟩ := run_of_converged (hconverges.symm.trans hconverged)
    constructor
    · intro hle
      have hrun := hmore limit' (hpasses ▸ hle)
      rw [hconverges', hpasses', hchanged', hfaults', hsnapshot', hpasses, hchanged, hfaults,
        hsnapshot, hrun]
      exact ⟨hconverges.symm.trans hconverged, Snapshot.ext (congrArg Progress.elements hrun) rfl, rfl, rfl, rfl⟩
    · intro hone hlt
      rw [hconverges', hpasses']
      exact hless limit' hone (hpasses ▸ hlt)
  · intro hblind first more r r' r'' hfirst hmore hr hr' hr'' resumed whole
    have hleft : (evaluate engine first r s).snapshot = settled engine first s :=
      evaluate_snapshot hr
    obtain ⟨helements, hconverged⟩ := run_add hblind hfirst hmore
    simp only [resumed, whole, hleft, evaluate_snapshot hr', evaluate_snapshot hr'',
      evaluate_converged hr', evaluate_converged hr'']
    exact ⟨Snapshot.ext helements rfl, hconverged⟩

/-! ## A form that takes three passes -/

open Script

/-- The slider falls to zero in two passes, and a third finds nothing to do. Under a limit of two the evaluation is
cut off before it, and resumed it comes to the same end. -/
theorem limit_cuts_short_countdown :
    let s := countdown (.int 2)
    let engine := Sandbox.engine {}
    (∀ e ∈ s.elements, engine.AsksFlagBlind e) ∧
      (evaluate engine 10 {} s).converged = true ∧ (evaluate engine 10 {} s).passes = 3 ∧
      (evaluate engine 3 {} s).snapshot = (evaluate engine 10 {} s).snapshot ∧
      (evaluate engine 2 {} s).converged = false ∧ (evaluate engine 2 {} s).passes = 2 ∧
      (evaluate engine 1 {} (evaluate engine 2 {} s).snapshot).snapshot = (evaluate engine 10 {} s).snapshot ∧
      (evaluate engine 1 {} (evaluate engine 2 {} s).snapshot).converged = true := by
  intro s engine
  have hsound : ({} : Registry Script.Program).Sound engine := Registry.sound_empty
  have hblind : ∀ e ∈ s.elements, engine.AsksFlagBlind e := asksFlagBlind_countdown _ rfl
  have hconverged : (evaluate engine 10 {} s).converged = true := by
    rw [evaluate_converged hsound, hooksOf_countdown rfl]
    decide +kernel
  have hpasses : (evaluate engine 10 {} s).passes = 3 := by
    rw [evaluate_passes hsound, hooksOf_countdown rfl]
    decide +kernel
  obtain ⟨hlimit, hresume⟩ := limit_cuts_short engine s
  obtain ⟨hfits, -⟩ := hlimit 10 {} hsound hconverged 3 {} hsound
  obtain ⟨-, hshort⟩ := hlimit 10 {} hsound hconverged 2 {} hsound
  obtain ⟨hthree, hsame, -⟩ := hfits (Nat.le_of_eq hpasses)
  obtain ⟨hcut, htwo⟩ := hshort (by decide) (Nat.lt_of_lt_of_eq (by decide) hpasses.symm)
  obtain ⟨hresumed, hends⟩ := hresume hblind 2 1 {} {} {} (by decide) (Nat.le_refl 1) hsound hsound hsound
  exact ⟨hblind, hconverged, hpasses, hsame, hcut, htwo, hresumed.trans hsame, hends.trans hthree⟩

end LiveForm.Evaluation

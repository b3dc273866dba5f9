import LiveForm.Proofs.Evaluation.FixedPoint
import LiveForm.Proofs.Evaluation.Flags

/-!
# Forms at rest

An evaluation that has converged leaves the values at rest: reacting to them once more writes nothing
(`run_quiet`). It has looked at values only. Its last pass shows the hooks the flags of the pass before, so
that a hook which reads flags may answer otherwise when it is asked again, and even values may change then.

What is needed besides is that the flags **fit** (`Fits`): deriving once more gives the flags that are there.
Values at rest and flags that fit are together just what it takes for an evaluation to end after one pass and
leave everything as it is (`run_of_rest`, `fits_of_run`). Hooks for flags and options that are flag-blind
always leave flags that fit (`run_fits`).
-/

namespace LiveForm

variable {Program : Type}

/-! ## Reactions and their records -/

namespace Reaction

/-- A reaction without its records: the ids that have been written, and what has been reported. -/
def unrecorded (r : Reaction) : Reaction := { r with changed := [], diagnostics := [] }

theorem write_unrecorded (r : Reaction) (w : ValueWrite) :
    (r.unrecorded.write w).unrecorded = (r.write w).unrecorded := by
  cases he : r.elements[w.place]? with
  | none =>
    have he' : r.unrecorded.elements[w.place]? = none := he
    simp only [write, he, he']
    rfl
  | some e =>
    have he' : r.unrecorded.elements[w.place]? = some e := he
    cases hsame : e.value.same (e.clamp w.value) with
    | true =>
      rw [write_of_same he hsame, write_of_same he' hsame]
      rfl
    | false =>
      rw [write_of_not_same he hsame, write_of_not_same he' hsame]
      rfl

/-- What is done to a reaction again and again, without a look at its records, does not hang on them. -/
theorem foldl_unrecorded {α : Type} {f : Reaction → α → Reaction}
    (hf : ∀ r a, (f r.unrecorded a).unrecorded = (f r a).unrecorded) (as : List α) (r : Reaction) :
    (as.foldl f r.unrecorded).unrecorded = (as.foldl f r).unrecorded := by
  induction as generalizing r with
  | nil => rfl
  | cons a as ih => rw [List.foldl_cons, List.foldl_cons, ← ih, hf, ih]

theorem callAt_unrecorded (engine : Engine Program) (place : Nat) (hook : Callable Program)
    (r : Reaction) :
    (r.unrecorded.callAt engine place hook).unrecorded =
      (r.callAt engine place hook).unrecorded := by
  have helements : r.unrecorded.elements = r.elements := rfl
  have hviews : r.unrecorded.views = r.views := rfl
  simp only [callAt, helements, hviews]
  split
  · split
    · rfl
    · rfl
    · split
      · rfl
      · exact foldl_unrecorded write_unrecorded _ r
  · rfl

theorem callFrom_unrecorded (engine : Engine Program) (place : Nat)
    (hooks : List (ResolvedHooks Program)) (r : Reaction) :
    (r.unrecorded.callFrom engine place hooks).unrecorded =
      (r.callFrom engine place hooks).unrecorded := by
  induction hooks generalizing place r with
  | nil => rfl
  | cons h rest ih =>
    simp only [callFrom]
    cases h.onValueChanged with
    | none => exact ih _ r
    | some hook => rw [← ih, callAt_unrecorded, ih]

/-- A pass that has written nothing has noted nothing. -/
theorem callFrom_changed (engine : Engine Program) (place : Nat)
    (hooks : List (ResolvedHooks Program)) {r : Reaction}
    (h : (r.callFrom engine place hooks).dirty = false) :
    (r.callFrom engine place hooks).changed = r.changed := by
  refine callFrom_induction (P := fun q => q.dirty = false → q.changed = r.changed) ?_ ?_ engine
    place hooks (fun _ => rfl) h
  · intro q w hq
    rcases write_cases q w with hw | ⟨e, -, -, hw⟩
    · rw [hw]
      exact hq
    · rw [hw]
      exact nofun
  · exact fun q d hq => hq

end Reaction

/-! ## Rest -/

namespace Evaluation

variable {engine : Engine Program} {es : List Element}

/-- The flags and options of a form fit its state: deriving them gives them again. -/
def Fits (engine : Engine Program) (es : List Element) : Prop :=
  (derive engine (es.map engine.hooksOf) es).1 = es

/-- The values of a form are at rest: reacting to them writes nothing. -/
def Quiet (engine : Engine Program) (es : List Element) : Prop :=
  (react engine (es.map engine.hooksOf) es []).dirty = false

/-- Whether reacting writes anything does not hang on what has been written before. -/
theorem react_dirty (engine : Engine Program) (hooks : List (ResolvedHooks Program))
    (es : List Element) (changed : List String) :
    (react engine hooks es changed).dirty = (react engine hooks es []).dirty := by
  have h := Reaction.callFrom_unrecorded engine 0 hooks (Reaction.start es changed)
  exact (congrArg (·.dirty) h).symm

/-- Nor does what it writes. -/
theorem react_elements (engine : Engine Program) (hooks : List (ResolvedHooks Program))
    (es : List Element) (changed : List String) :
    (react engine hooks es changed).elements = (react engine hooks es []).elements := by
  have h := Reaction.callFrom_unrecorded engine 0 hooks (Reaction.start es changed)
  exact (congrArg (·.elements) h).symm

/-- **What has converged is quiet.** -/
theorem run_quiet {limit : Nat}
    (h : (run engine (es.map engine.hooksOf) limit es).converged = true) :
    Quiet engine (run engine (es.map engine.hooksOf) limit es).elements := by
  rw [Quiet, Engine.map_hooksOf_eq engine (run_frame engine (es.map engine.hooksOf) limit es)]
  rw [run_converged] at h
  obtain ⟨q, -, hconverged, hlast⟩ := iterate_last engine (es.map engine.hooksOf) rfl h
  rw [run, settle_of_converged engine _ h, hlast, pass_eq_derive engine _ hconverged,
    ← react_dirty engine _ _ q.changed, ← Bool.not_eq_true']
  exact hconverged

/-- **A form at rest** is left as it is, after one pass. -/
theorem run_of_rest (hfits : Fits engine es) (hquiet : Quiet engine es) (limit : Nat) :
    let p := run engine (es.map engine.hooksOf) limit es
    p.passes = 1 ∧ p.converged = true ∧ p.changed = [] ∧ p.elements = es := by
  let first := pass engine (es.map engine.hooksOf) { elements := es }
  have hreact : react engine (es.map engine.hooksOf)
      (derive engine (es.map engine.hooksOf) es).1 [] =
      react engine (es.map engine.hooksOf) es [] := by rw [hfits]
  have hconverged : first.converged = true := by
    show (!(react engine _ (derive engine _ es).1 []).dirty) = true
    rw [hreact, hquiet]
    rfl
  have hrun : run engine (es.map engine.hooksOf) limit es = first := run_of_first engine _ hconverged limit
  rw [hrun]
  refine ⟨rfl, hconverged, ?_, (pass_eq_derive engine _ hconverged).trans hfits⟩
  show (react engine _ (derive engine _ es).1 []).changed = []
  rw [hreact]
  exact Reaction.callFrom_changed engine 0 _ hquiet

/-- Passes that may be made are made, at least one. -/
theorem lt_iterate_passes (engine : Engine Program) (hooks : List (ResolvedHooks Program))
    (left : Nat) (p : Progress) : p.passes < (iterate engine hooks (left + 1) p).passes := by
  rw [iterate]
  split
  · exact Nat.lt_succ_self _
  · exact iterate_induction engine hooks (P := fun q => p.passes < q.passes)
      (fun _ hq => Nat.lt_succ_of_lt hq) left (Nat.lt_succ_self _)

/-- An evaluation that converges in its first pass and leaves a form as it is has found flags that fit. -/
theorem fits_of_run {limit : Nat}
    (hpasses : (run engine (es.map engine.hooksOf) limit es).passes = 1)
    (hconverged : (run engine (es.map engine.hooksOf) limit es).converged = true)
    (helements : (run engine (es.map engine.hooksOf) limit es).elements = es) :
    Fits engine es := by
  obtain ⟨left, hleft⟩ : ∃ left, max limit 1 = left + 1 := ⟨max limit 1 - 1, by omega⟩
  rw [run_passes, hleft] at hpasses
  rw [run_converged, hleft] at hconverged
  rw [run, hleft, settle_of_converged engine _ hconverged] at helements
  cases hfirst : (pass engine (es.map engine.hooksOf) { elements := es }).converged with
  | true =>
    rw [iterate, if_pos hfirst] at helements
    rw [Fits, ← pass_eq_derive engine _ hfirst, helements]
  | false =>
    -- then a second pass would have been needed
    rw [iterate, if_neg (by rw [hfirst]; exact Bool.false_ne_true)] at hpasses hconverged
    cases left with
    | zero =>
      rw [iterate, hfirst] at hconverged
      cases hconverged
    | succ left =>
      have hmore := lt_iterate_passes engine (es.map engine.hooksOf) left
        (pass engine (es.map engine.hooksOf) { elements := es })
      rw [hpasses] at hmore
      exact absurd hmore (Nat.lt_irrefl 1)

/-- **Flags given by flag-blind hooks fit.** -/
theorem run_fits (hblind : ∀ e ∈ es, engine.AsksFlagBlind e) (limit : Nat) :
    Fits engine (run engine (es.map engine.hooksOf) limit es).elements := by
  obtain ⟨es', hes', hrun⟩ := run_eq_derive engine (es.map engine.hooksOf) limit es
  have hframe := run_frame engine (es.map engine.hooksOf) limit es
  generalize (run engine (es.map engine.hooksOf) limit es).elements = after at hrun hframe ⊢
  rw [← Engine.map_hooksOf_eq engine hes'] at hrun
  rw [Fits, derive_eq_map]
  refine (List.map_congr_left fun e he => ?_).trans (List.map_id after)
  obtain ⟨before, hbefore, hbeforeFrame⟩ := mem_of_frame hframe he
  have hasks : engine.AsksFlagBlind e := (hblind before hbefore).of_frame hbeforeFrame
  obtain ⟨hvisible, hdisabled, hoptions⟩ := answer?_derive hrun he hasks
  rw [derivedIn_eq, ← hvisible, ← hdisabled, ← hoptions]
  rfl

/-! ## Evaluating again -/

section

variable {limit : Nat} {r : Registry Program} {s : Snapshot} (hr : r.Sound engine)

include hr

/-- What an evaluation has left is left as it is by the next one, in one pass, just if the flags fit. -/
theorem evaluate_again {r' : Registry Program} (hr' : r'.Sound engine)
    (hconverged : (evaluate engine limit r s).converged = true) :
    let outcome := evaluate engine limit r s
    let again := evaluate engine limit r' outcome.snapshot
    Fits engine outcome.snapshot.elements ↔
      again.passes = 1 ∧ again.converged = true ∧ again.changed = [] ∧
        again.snapshot = outcome.snapshot := by
  intro outcome again
  have hsnapshot : outcome.snapshot = settled engine limit s := evaluate_snapshot hr
  have hquiet : Quiet engine outcome.snapshot.elements := by
    rw [evaluate_converged hr] at hconverged
    rw [hsnapshot]
    exact run_quiet hconverged
  have hpasses : again.passes = _ := evaluate_passes hr'
  have hagain : again.converged = _ := evaluate_converged hr'
  have hchanged : again.changed = _ := evaluate_changed hr'
  have hafter : again.snapshot = settled engine limit outcome.snapshot :=
    evaluate_snapshot hr'
  rw [hpasses, hagain, hchanged, hafter]
  constructor
  · intro hfits
    obtain ⟨hone, hconverges, hnothing, helements⟩ := run_of_rest hfits hquiet limit
    exact ⟨hone, hconverges, hnothing, Snapshot.ext helements rfl⟩
  · rintro ⟨hone, hconverges, -, hsame⟩
    exact fits_of_run hone hconverges (congrArg Snapshot.elements hsame)

theorem evaluate_fits (hblind : ∀ e ∈ s.elements, engine.AsksFlagBlind e) :
    Fits engine (evaluate engine limit r s).snapshot.elements := by
  rw [evaluate_snapshot hr]
  exact run_fits hblind limit

end

end Evaluation

end LiveForm

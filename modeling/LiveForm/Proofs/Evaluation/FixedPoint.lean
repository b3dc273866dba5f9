import LiveForm.Evaluation.FixedPoint
import LiveForm.Proofs.Evaluation.Derive
import LiveForm.Proofs.Evaluation.React

/-!
# Where an evaluation ends

An evaluation runs passes until one writes nothing, or until it may run no more. Both ends have in common
that **the last thing that happened to the elements is a derivation** (`run_eq_derive`): a pass that writes
nothing leaves what it has derived, and after the last pass of a capped run the form is derived once more.
Hence the flags of the outcome fit the outcome, without a look at how it came about.

The registry plays no part in the outcome, and distinct elements stay distinct, so that the snapshot of an
outcome is the one that the run has left (`settled`).
-/

namespace LiveForm.Evaluation

variable {Program : Type} (engine : Engine Program) (hooks : List (ResolvedHooks Program))

/-! ## One pass -/

theorem pass_tracks (p : Progress) :
    ∃ r : Reaction, Reaction.Tracks (derive engine hooks p.elements).1 r ∧
      (pass engine hooks p).elements = r.elements ∧
      (pass engine hooks p).converged = !r.dirty :=
  ⟨_, react_tracks engine hooks _ p.changed, rfl, rfl⟩

@[simp] theorem pass_passes (p : Progress) : (pass engine hooks p).passes = p.passes + 1 := rfl

theorem pass_frame (p : Progress) :
    (pass engine hooks p).elements.map Element.frame = p.elements.map Element.frame := by
  obtain ⟨r, hr, helements, -⟩ := pass_tracks engine hooks p
  rw [helements, hr.frame, derive_frame]

/-- A pass that converges leaves what it has derived. -/
theorem pass_eq_derive {p : Progress} (h : (pass engine hooks p).converged = true) :
    (pass engine hooks p).elements = (derive engine hooks p.elements).1 := by
  obtain ⟨r, hr, helements, hconverged⟩ := pass_tracks engine hooks p
  rw [hconverged, Bool.not_eq_true'] at h
  rw [helements, hr.clean h]

/-! ## Many passes -/

theorem iterate_succ (left : Nat) (p : Progress) :
    iterate engine hooks (left + 1) p =
      if (pass engine hooks p).converged then pass engine hooks p
      else iterate engine hooks left (pass engine hooks p) := rfl

/-- What a pass keeps, passes keep. -/
theorem iterate_induction {P : Progress → Prop} (hpass : ∀ p, P p → P (pass engine hooks p))
    (left : Nat) {p : Progress} (hp : P p) : P (iterate engine hooks left p) := by
  induction left generalizing p with
  | zero => exact hp
  | succ left ih =>
    simp only [iterate]
    split
    · exact hpass p hp
    · exact ih (hpass p hp)

/-- Two runs of passes that are related after one pass stay so, if what is related converges alike. -/
theorem iterate_related {R : Progress → Progress → Prop}
    (hconverged : ∀ p q, R p q → p.converged = q.converged)
    (hpass : ∀ p q, R p q → R (pass engine hooks p) (pass engine hooks q))
    (left : Nat) {p q : Progress} (h : R (pass engine hooks p) (pass engine hooks q)) :
    R (iterate engine hooks (left + 1) p) (iterate engine hooks (left + 1) q) := by
  induction left generalizing p q with
  | zero =>
    simp only [iterate, ite_self]
    exact h
  | succ left ih =>
    rw [iterate_succ, iterate_succ _ _ _ q, hconverged _ _ h]
    split
    · exact h
    · exact ih (hpass _ _ h)

/-- Passes are continued where they stopped, unless they have converged. -/
theorem iterate_add (left more : Nat) {p : Progress} (hp : p.converged = false) :
    iterate engine hooks (left + more) p =
      if (iterate engine hooks left p).converged then iterate engine hooks left p
      else iterate engine hooks more (iterate engine hooks left p) := by
  induction left generalizing p with
  | zero => rw [Nat.zero_add, iterate, hp, if_neg Bool.false_ne_true]
  | succ left ih =>
    rw [Nat.add_right_comm, iterate_succ, iterate_succ]
    cases hc : (pass engine hooks p).converged with
    | true => simp only [if_true, hc]
    | false => simpa only [Bool.false_eq_true, if_false] using ih hc

/-- **The passes of a run that converges** are one number, under whatever limit: with so many it has
converged, and with less it has made what passes it may and has not. -/
theorem exists_iterate_passes {left : Nat} {p : Progress} (hp : p.converged = false)
    (h : (iterate engine hooks left p).converged = true) :
    ∃ k, (iterate engine hooks left p).passes = p.passes + k ∧
      (∀ other, k ≤ other → iterate engine hooks other p = iterate engine hooks left p) ∧
      ∀ other, other < k → (iterate engine hooks other p).converged = false ∧
        (iterate engine hooks other p).passes = p.passes + other := by
  induction left generalizing p with
  | zero =>
    rw [iterate, hp] at h
    cases h
  | succ left ih =>
    rw [iterate_succ] at h ⊢
    cases hc : (pass engine hooks p).converged with
    | true =>
      -- the first pass is the last one
      refine ⟨1, by rw [if_pos rfl, pass_passes], fun other hother => ?_, fun other hother => ?_⟩
      · obtain ⟨other, rfl⟩ := Nat.exists_eq_add_of_le' hother
        rw [iterate_succ, hc, if_pos rfl, if_pos rfl]
      · obtain rfl : other = 0 := by omega
        exact ⟨hp, rfl⟩
    | false =>
      simp only [hc, Bool.false_eq_true, if_false] at h ⊢
      obtain ⟨k, hpasses, hmore, hless⟩ := ih hc h
      rw [pass_passes] at hpasses hless
      refine ⟨k + 1, by omega, fun other hother => ?_, fun other hother => ?_⟩
      · obtain ⟨other, rfl⟩ := Nat.exists_eq_add_of_le' (Nat.le_of_add_left_le hother)
        rw [iterate_succ, hc]
        exact hmore other (by omega)
      · cases other with
        | zero => exact ⟨hp, rfl⟩
        | succ other =>
          rw [iterate_succ, hc]
          obtain ⟨hconverged, hother⟩ := hless other (by omega)
          exact ⟨hconverged, hother.trans (by omega)⟩

/-- A run of passes that converges does so in a pass. -/
theorem iterate_last {left : Nat} {p : Progress} (hp : p.converged = false)
    (h : (iterate engine hooks left p).converged = true) :
    ∃ q : Progress, q.elements.map Element.frame = p.elements.map Element.frame ∧
      (pass engine hooks q).converged = true ∧
      iterate engine hooks left p = pass engine hooks q := by
  induction left generalizing p with
  | zero =>
    rw [iterate, hp] at h
    cases h
  | succ left ih =>
    cases hc : (pass engine hooks p).converged with
    | true =>
      refine ⟨p, rfl, hc, ?_⟩
      simp only [iterate, hc, if_true]
    | false =>
      have hi : iterate engine hooks (left + 1) p = iterate engine hooks left (pass engine hooks p) := by
        simp only [iterate, hc, Bool.false_eq_true, if_false]
      rw [hi] at h
      obtain ⟨q, hq, hqc, he⟩ := ih hc h
      exact ⟨q, hq.trans (pass_frame engine hooks p), hqc, hi.trans he⟩

theorem iterate_frame (left : Nat) (p : Progress) :
    (iterate engine hooks left p).elements.map Element.frame = p.elements.map Element.frame :=
  iterate_induction engine hooks (P := fun q => q.elements.map Element.frame = p.elements.map Element.frame)
    (fun q hq => (pass_frame engine hooks q).trans hq) left rfl

/-! ## Whole evaluations -/

theorem settle_of_converged {p : Progress} (h : p.converged = true) : settle engine hooks p = p := by
  rw [settle, if_pos h]

@[simp] theorem settle_passes (p : Progress) : (settle engine hooks p).passes = p.passes := by
  rw [settle]
  split <;> rfl

@[simp] theorem settle_converged (p : Progress) :
    (settle engine hooks p).converged = p.converged := by
  rw [settle]
  split <;> rfl

theorem run_passes (limit : Nat) (es : List Element) :
    (run engine hooks limit es).passes =
      (iterate engine hooks (max limit 1) { elements := es }).passes :=
  settle_passes engine hooks _

theorem run_converged (limit : Nat) (es : List Element) :
    (run engine hooks limit es).converged =
      (iterate engine hooks (max limit 1) { elements := es }).converged :=
  settle_converged engine hooks _

/-- An evaluation whose first pass converges is this pass. -/
theorem run_of_first {es : List Element}
    (h : (pass engine hooks { elements := es }).converged = true) (limit : Nat) :
    run engine hooks limit es = pass engine hooks { elements := es } := by
  obtain ⟨left, hleft⟩ : ∃ left, max limit 1 = left + 1 := ⟨max limit 1 - 1, by omega⟩
  rw [run, hleft, iterate_succ, if_pos h]
  exact settle_of_converged engine hooks h

/-- Without hooks that react to values an evaluation is a derivation. -/
theorem run_of_silent (h : ∀ own ∈ hooks, own.onValueChanged = none) (limit : Nat)
    (es : List Element) : (run engine hooks limit es).elements = (derive engine hooks es).1 := by
  have hreact (es : List Element) (changed : List String) :
      react engine hooks es changed = Reaction.start es changed :=
    Reaction.callFrom_of_silent engine 0 h _
  have hfirst : (pass engine hooks { elements := es }).converged = true := by
    simp only [pass, hreact]
    rfl
  rw [run_of_first engine hooks hfirst]
  exact pass_eq_derive engine hooks hfirst

/-- **An evaluation ends with a derivation**, whether it converged or not. -/
theorem run_eq_derive (limit : Nat) (es : List Element) :
    ∃ es' : List Element, es'.map Element.frame = es.map Element.frame ∧
      (run engine hooks limit es).elements = (derive engine hooks es').1 := by
  rw [run]
  generalize hp : iterate engine hooks (max limit 1) { elements := es } = p
  have hframe : p.elements.map Element.frame = es.map Element.frame := by
    rw [← hp]
    exact iterate_frame engine hooks _ _
  cases hc : p.converged with
  | false =>
    -- the derivation after the last pass
    refine ⟨p.elements, hframe, ?_⟩
    simp only [settle, hc, Bool.false_eq_true, if_false]
  | true =>
    -- the derivation of the pass that wrote nothing
    rw [settle_of_converged engine hooks hc]
    rw [← hp] at hc
    obtain ⟨q, hq, hqc, hlast⟩ := iterate_last engine hooks rfl hc
    refine ⟨q.elements, hq, ?_⟩
    rw [← hp, hlast]
    exact pass_eq_derive engine hooks hqc

theorem run_frame (limit : Nat) (es : List Element) :
    (run engine hooks limit es).elements.map Element.frame = es.map Element.frame := by
  obtain ⟨es', hes', hrun⟩ := run_eq_derive engine hooks limit es
  rw [hrun, derive_frame, hes']

/-! ## Evaluations of snapshots -/

/-- What an evaluation makes of a snapshot, the registry left aside. -/
def settled (engine : Engine Program) (limit : Nat) (s : Snapshot) : Snapshot where
  elements := (run engine (s.elements.map engine.hooksOf) limit s.elements).elements
  initial := s.initial
  distinct := s.distinct.of_frame (run_frame engine _ limit s.elements)

theorem settled_elements (engine : Engine Program) (limit : Nat) (s : Snapshot) :
    (settled engine limit s).elements =
      (run engine (s.elements.map engine.hooksOf) limit s.elements).elements := rfl

/-- A form that an evaluation leaves as it is. -/
theorem settled_eq_self {engine : Engine Program} {limit : Nat} {s : Snapshot}
    (h : (run engine (s.elements.map engine.hooksOf) limit s.elements).elements = s.elements) :
    settled engine limit s = s :=
  Snapshot.ext ((settled_elements engine limit s).trans h) rfl

theorem settled_frame (engine : Engine Program) (limit : Nat) (s : Snapshot) :
    (settled engine limit s).elements.map Element.frame = s.elements.map Element.frame :=
  run_frame engine _ limit s.elements

theorem settled_ids (engine : Engine Program) (limit : Nat) (s : Snapshot) :
    (settled engine limit s).ids = s.ids :=
  ids_eq_of_frame (settled_frame engine limit s)

section

variable {engine} {limit : Nat} {r : Registry Program} {s : Snapshot}

theorem evaluate_sound (limit : Nat) (hr : r.Sound engine) :
    (evaluate engine limit r s).registry.Sound engine :=
  (hr.resolveAll s.elements).2

theorem evaluate_passes (hr : r.Sound engine) :
    (evaluate engine limit r s).passes =
      (run engine (s.elements.map engine.hooksOf) limit s.elements).passes := by
  rw [← (hr.resolveAll s.elements).1]
  rfl

theorem evaluate_converged (hr : r.Sound engine) :
    (evaluate engine limit r s).converged =
      (run engine (s.elements.map engine.hooksOf) limit s.elements).converged := by
  rw [← (hr.resolveAll s.elements).1]
  rfl

theorem evaluate_changed (hr : r.Sound engine) :
    (evaluate engine limit r s).changed =
      (run engine (s.elements.map engine.hooksOf) limit s.elements).changed := by
  rw [← (hr.resolveAll s.elements).1]
  rfl

theorem evaluate_faults (hr : r.Sound engine) :
    (evaluate engine limit r s).faults =
      (run engine (s.elements.map engine.hooksOf) limit s.elements).faults.length := by
  rw [← (hr.resolveAll s.elements).1]
  rfl

/-- What is reported: hooks that do not compile, calls that fail, and that there was no end. -/
theorem evaluate_reported (engine : Engine Program) (limit : Nat) (r : Registry Program) (s : Snapshot) :
    (evaluate engine limit r s).diagnostics =
      (r.resolveAll engine s.elements).2.1 ++
        (run engine (r.resolveAll engine s.elements).1 limit s.elements).faults ++
        if (run engine (r.resolveAll engine s.elements).1 limit s.elements).converged then []
        else [.convergenceExceeded (max limit 1)] := rfl

/-- The snapshot of an outcome holds what a run with the hooks of the registry has left. -/
theorem evaluate_snapshot_eq (engine : Engine Program) (limit : Nat) (r : Registry Program) (s : Snapshot) :
    (evaluate engine limit r s).snapshot =
      ⟨(run engine (r.resolveAll engine s.elements).1 limit s.elements).elements, s.initial,
        s.distinct.of_frame (run_frame engine _ limit s.elements)⟩ := by
  have hd := s.distinct.of_frame (run_frame engine (r.resolveAll engine s.elements).1 limit s.elements)
  simp only [evaluate, Snapshot.ofElements?_of_distinct hd, Except.toOption, Option.getD_some]

theorem evaluate_snapshot (hr : r.Sound engine) :
    (evaluate engine limit r s).snapshot = settled engine limit s := by
  rw [evaluate_snapshot_eq engine limit r s]
  refine Snapshot.ext ?_ rfl
  rw [(hr.resolveAll s.elements).1]
  rfl

theorem evaluate_elements (hr : r.Sound engine) :
    (evaluate engine limit r s).snapshot.elements =
      (run engine (s.elements.map engine.hooksOf) limit s.elements).elements := by
  rw [evaluate_snapshot hr, settled_elements]

end

end LiveForm.Evaluation

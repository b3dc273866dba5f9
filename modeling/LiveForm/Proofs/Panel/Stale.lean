import LiveForm.Proofs.Evaluation.Stale
import LiveForm.Proofs.Hook.Renewal
import LiveForm.Proofs.Panel.Rest

/-!
# What widgets hand back

An element that a widget hands back carries the flags and options it was drawn with, and so does an element
of a definition that was once taken from a running form. If the hooks for flags and options are flag-blind,
none of that has any effect (`stale_flags_unseen`): an evaluation comes to the same outcome, and a panel that
is given the element is the same panel afterwards, its registry included. Hooks that react to values are free
to read flags. They never see stale ones.
-/

namespace LiveForm

variable {Program : Type} {engine : Engine Program}

/-! ## Two evaluations -/

section

variable {s s' : Snapshot} (hinitial : s.initial = s'.initial)
  (hsame : s.elements.map Element.withoutDerived = s'.elements.map Element.withoutDerived)

include hinitial hsame

/-- Evaluations of snapshots that differ in what is derived only come to the same outcome. -/
theorem Evaluation.evaluate_of_stale (hblind : ∀ e ∈ s.elements, engine.AsksFlagBlind e)
    (limit : Nat) {r r' : Registry Program} (hr : r.Sound engine) (hr' : r'.Sound engine) :
    let outcome := evaluate engine limit r s
    let other := evaluate engine limit r' s'
    outcome.snapshot = other.snapshot ∧ outcome.passes = other.passes ∧
      outcome.converged = other.converged ∧ outcome.changed = other.changed ∧
      outcome.faults = other.faults := by
  intro outcome other
  have hcourse := run_sameCourse hsame hblind limit
  refine ⟨?_, ?_, ?_, ?_, ?_⟩
  · rw [evaluate_snapshot hr, evaluate_snapshot hr']
    exact Snapshot.ext hcourse.elements hinitial
  · rw [evaluate_passes hr, evaluate_passes hr', hcourse.passes]
  · rw [evaluate_converged hr, evaluate_converged hr', hcourse.converged]
  · rw [evaluate_changed hr, evaluate_changed hr', hcourse.changed]
  · rw [evaluate_faults hr, evaluate_faults hr', hcourse.faults]

namespace Panel

variable {p : Panel Program}

/-- So does publishing them. -/
theorem publish_of_stale (hp : p.Valid) (hblind : ∀ e ∈ s.elements, p.engine.AsksFlagBlind e) :
    (p.publish s).panel = (p.publish s').panel ∧ (p.publish s).diff = (p.publish s').diff := by
  have hframes := frames_eq_of_withoutDerived hsame
  have hretain := p.registry.retain_of_ids (ids_eq_of_frame hframes)
  have hsound : (p.registry.retain s'.elements).Sound p.engine := hp.sound.retain s'.elements
  have hregistry : (Evaluation.evaluate p.engine p.limit (p.registry.retain s'.elements) s).registry =
      (Evaluation.evaluate p.engine p.limit (p.registry.retain s'.elements) s').registry :=
    congrArg (·.2.2) ((p.registry.retain s'.elements).resolveAll_of_frame hframes)
  obtain ⟨hsnapshot, hpasses, hconverged, hchanged, hfaults⟩ :=
    Evaluation.evaluate_of_stale hinitial hsame hblind p.limit hsound hsound
  simp only [publish, hretain, hregistry, hsnapshot, hpasses, hconverged, hchanged, hfaults,
    and_self]

end Panel

end

namespace Panel

/-- Replacing an element by one that carries other flags and options. -/
theorem replaceElement_of_stale {p : Panel Program} (hp : p.Valid)
    (hpublished : ∀ e ∈ p.published.elements, p.engine.AsksFlagBlind e) {e e' : Element}
    (hblind : p.engine.AsksFlagBlind e) (hsame : e.withoutDerived = e'.withoutDerived) :
    (p.replaceElement e).map (fun u => (u.panel, u.diff)) =
      (p.replaceElement e').map (fun u => (u.panel, u.diff)) := by
  have hid : e.id = e'.id := Element.eq_of_withoutDerived hsame Element.id fun _ => rfl
  simp only [replaceElement, Snapshot.replace?, hid]
  cases p.published.contains e'.id with
  | false => rfl
  | true =>
    have hreplaced : (p.published.assignElement e).elements.map Element.withoutDerived =
        (p.published.assignElement e').elements.map Element.withoutDerived := by
      simp only [Snapshot.assignElement_elements, List.map_map, hid]
      refine List.map_congr_left fun x _ => ?_
      simp only [Function.comp_apply]
      split
      · exact hsame
      · rfl
    have hasks : ∀ x ∈ (p.published.assignElement e).elements, p.engine.AsksFlagBlind x := by
      intro x hx
      obtain ⟨old, hold, rfl⟩ := List.mem_map.1 hx
      split
      · exact hblind
      · exact hpublished old hold
    have hinitial : (p.published.assignElement e).initial = (p.published.assignElement e').initial := rfl
    obtain ⟨hpanel, hdiff⟩ := publish_of_stale hinitial hreplaced hp hasks
    exact congrArg Except.ok (Prod.ext hpanel hdiff)

end Panel

/-- **Stale flags are not seen.** Let the hooks for flags and options be flag-blind. Then evaluations of
snapshots that have the same initial values and differ in what is derived only come to the same outcome, with
whatever registries: the same snapshot after as many passes, the same changes, as many failures. And after any
session, a panel that is given an element comes to the same panel and tells the same difference, whatever
flags and options the element carries. -/
theorem stale_flags_unseen (engine : Engine Program) (limit : Nat) :
    (∀ (r r' : Registry Program) (s s' : Snapshot), r.Sound engine → r'.Sound engine →
      s.initial = s'.initial →
      s.elements.map Element.withoutDerived = s'.elements.map Element.withoutDerived →
      (∀ e ∈ s.elements, engine.AsksFlagBlind e) →
      let outcome := Evaluation.evaluate engine limit r s
      let other := Evaluation.evaluate engine limit r' s'
      outcome.snapshot = other.snapshot ∧ outcome.passes = other.passes ∧
        outcome.converged = other.converged ∧ outcome.changed = other.changed ∧
        outcome.faults = other.faults) ∧
    ∀ (d : Definition) (u : Update Program), Panel.ofDefinition? engine limit d = .ok u →
      ∀ (ops : List Operation) (e e' : Element),
      let p := u.panel.after ops
      (∀ x ∈ p.published.elements, engine.AsksFlagBlind x) → engine.AsksFlagBlind e →
      e.withoutDerived = e'.withoutDerived →
      (p.replaceElement e).map (fun v => (v.panel, v.diff)) =
        (p.replaceElement e').map fun v => (v.panel, v.diff) := by
  constructor
  · intro r r' s s' hr hr' hinitial hsame hblind
    exact Evaluation.evaluate_of_stale hinitial hsame hblind limit hr hr'
  · intro d u hu ops e e' p hpublished hblind hsame
    have hengine : p.engine = engine := Panel.after_engine_of_definition hu ops
    obtain ⟨-, hvalid⟩ := Panel.after_settled hu ops
    rw [← hengine] at hpublished hblind
    exact Panel.replaceElement_of_stale hvalid hpublished hblind hsame

/-! ## A form that looks at a flag -/

namespace Panel

open Script

/-- A switch whose value is whether the first element is shown. -/
def watcher : Element :=
  { id := "b", type := .boolean, hooks := { onValueChanged := some "elements[0].visible" } }

theorem asksFlagBlind_watched {e : Element} (he : e ∈ [hidden, watcher]) :
    (Sandbox.engine {}).AsksFlagBlind e := by
  rcases List.mem_pair.1 he with rfl | rfl
  · exact asksFlagBlind_hidden rfl
  · refine Engine.AsksFlagBlind.of_unasked fun kind hkind => ?_
    cases kind with
    | onValueChanged => exact absurd rfl hkind
    | _ => rfl

/-- The form with the flag its first element is defined with, which is not the one it is evaluated to. -/
def unwatched : Snapshot := ⟨[hidden, watcher], ∅, by decide⟩

/-- The form as it was last drawn. -/
def drawn : Snapshot :=
  ⟨[{ hidden with visible := false }, { watcher with disabled := true }], ∅, by decide⟩

/-- Though there is a hook that looks at the flag, it does not matter which one the form comes in with. -/
theorem stale_flags_unseen_watcher :
    (∀ e ∈ unwatched.elements, (Sandbox.engine {}).AsksFlagBlind e) ∧
      unwatched.elements.map Element.withoutDerived = drawn.elements.map Element.withoutDerived ∧
      (Evaluation.evaluate (Sandbox.engine {}) 8 {} unwatched).snapshot =
        (Evaluation.evaluate (Sandbox.engine {}) 8 {} drawn).snapshot ∧
      ∃ u, ofDefinition? (Sandbox.engine {}) 8 { elements := [hidden] } = .ok u ∧
        (u.panel.replaceElement hidden).map (fun v => (v.panel, v.diff)) =
          (u.panel.replaceElement { hidden with visible := false }).map fun v => (v.panel, v.diff) := by
  have hsound : ({} : Registry Script.Program).Sound (Sandbox.engine {}) := Registry.sound_empty
  have hblind : ∀ e ∈ unwatched.elements, (Sandbox.engine {}).AsksFlagBlind e :=
    fun _ he => asksFlagBlind_watched he
  have hsame : unwatched.elements.map Element.withoutDerived =
      drawn.elements.map Element.withoutDerived := rfl
  obtain ⟨hevaluate, hpanel⟩ := stale_flags_unseen (Sandbox.engine {}) 8
  obtain ⟨hsnapshot, -⟩ := hevaluate {} {} unwatched drawn hsound hsound rfl hsame hblind
  have hu : ofDefinition? (Sandbox.engine {}) 8 { elements := [hidden] } =
      .ok (ofSnapshot (Sandbox.engine {}) 8 none ⟨[hidden], Snapshot.valuesOf [hidden], by decide⟩) := rfl
  refine ⟨hblind, hsame, hsnapshot, _, hu, ?_⟩
  refine hpanel _ _ hu [] hidden { hidden with visible := false } ?_ (asksFlagBlind_hidden rfl) rfl
  intro e he
  refine asksFlagBlind_hidden (hooks_of_frame_singleton ?_ he)
  rw [after, ofSnapshot_published]
  exact Evaluation.settled_frame _ _ _

end Panel

end LiveForm

import LiveForm.Proofs.Form.Range
import LiveForm.Proofs.Panel.Session
import LiveForm.Script.Sandbox

/-!
# Ranges in a session

Every way in which a value enters a form leads through the range of its element: edits, loaded values, the
outcomes of actions, and what hooks write. So an element that starts within its range is within it in all
that is published (`published_inRange`). There is one exception. An element that replaces another enters as
it is, with the value it has, and it is up to whoever hands it in that this value is within its bounds
(`replaced_beyond_range`).
-/

namespace LiveForm

variable {Program : Type} {id : String}

/-- The element of an id, if there is one, keeps its range. -/
def RangeKept (id : String) (es : List Element) : Prop := ∀ e ∈ es, e.id = id → e.KeepsRange

/-! ## Evaluation -/

/-- The range of an element is not derived. -/
theorem RangeKept.of_withoutDerived {es es' : List Element} (h : RangeKept id es)
    (hes : es'.map Element.withoutDerived = es.map Element.withoutDerived) : RangeKept id es' := by
  intro e he hid
  have hmem : e.withoutDerived ∈ es.map Element.withoutDerived := by
    rw [← hes]
    exact List.mem_map_of_mem he
  obtain ⟨e', he', hsame⟩ := List.mem_map.1 hmem
  have hid' : e'.id = id := (congrArg Element.id hsame).trans hid
  have hkeeps : e'.withoutDerived.KeepsRange := h e' he' hid'
  rw [hsame] at hkeeps
  exact hkeeps

theorem Reaction.write_rangeKept {r : Reaction} (w : ValueWrite) (h : RangeKept id r.elements) :
    RangeKept id (r.write w).elements := by
  rcases r.write_cases w with hw | ⟨e, -, -, hw⟩
  · rw [hw]
    exact h
  · intro e' he' hid
    rw [hw] at he'
    rcases List.mem_or_eq_of_mem_set he' with hmem | rfl
    · exact h e' hmem hid
    · exact e.keepsRange_withValueOf w.value

namespace Evaluation

variable (engine : Engine Program) (hooks : List (ResolvedHooks Program))

theorem derive_rangeKept {es : List Element} (h : RangeKept id es) :
    RangeKept id (derive engine hooks es).1 :=
  h.of_withoutDerived (derive_withoutDerived engine hooks es)

theorem react_rangeKept {es : List Element} (changed : List String) (h : RangeKept id es) :
    RangeKept id (react engine hooks es changed).elements :=
  Reaction.callFrom_induction (P := fun r => RangeKept id r.elements)
    (fun _ w h => Reaction.write_rangeKept w h) (fun _ _ h => h) engine 0 hooks h

theorem pass_rangeKept {p : Progress} (h : RangeKept id p.elements) :
    RangeKept id (pass engine hooks p).elements :=
  react_rangeKept engine hooks p.changed (derive_rangeKept engine hooks h)

theorem settle_rangeKept {p : Progress} (h : RangeKept id p.elements) :
    RangeKept id (settle engine hooks p).elements := by
  rw [settle]
  split
  · exact h
  · exact derive_rangeKept engine hooks h

/-- **Whatever hooks write**, an evaluation keeps ranges. -/
theorem run_rangeKept (limit : Nat) {es : List Element} (h : RangeKept id es) :
    RangeKept id (run engine hooks limit es).elements :=
  settle_rangeKept engine hooks
    (iterate_induction engine hooks (P := fun p => RangeKept id p.elements)
      (fun _ hp => pass_rangeKept engine hooks hp) (max limit 1) h)

end Evaluation

/-! ## Edits -/

namespace Snapshot

theorem update_rangeKept {s : Snapshot} {at' : String} {f : Element → Element}
    {hid : ∀ e, e.id = at' → (f e).id = at'} (hf : ∀ e, (f e).id = id → (f e).KeepsRange)
    (h : RangeKept id s.elements) : RangeKept id (s.update at' f hid).elements := by
  intro e he hid
  obtain ⟨old, hold, rfl⟩ := List.mem_map.1 he
  revert hid
  split
  · exact hf old
  · exact h old hold

theorem assignEach_rangeKept {s : Snapshot} (edits : List (String × Json)) (h : RangeKept id s.elements) :
    RangeKept id (s.assignEach edits).elements := by
  induction edits generalizing s with
  | nil => exact h
  | cons edit edits ih => exact ih (update_rangeKept (fun e _ => e.keepsRange_withValueOf edit.2) h)

end Snapshot

namespace Panel

variable {p : Panel Program}

/-- **An edit** keeps a range, unless it puts an element in that does not. -/
theorem edit?_rangeKept {op : Operation} {next : Snapshot} (h : p.edit? op = some next)
    (hrange : RangeKept id p.published.elements)
    (hreplaced : ∀ e, op = .replaceElement e → e.id = id → e.KeepsRange) :
    RangeKept id next.elements := by
  cases op with
  | setValue at' value =>
    obtain rfl := Snapshot.setValue?_eq h
    exact Snapshot.update_rangeKept (fun e _ => e.keepsRange_withValueOf value) hrange
  | replaceElement e =>
    -- the one edit that does not go through the range
    obtain rfl := Snapshot.replace?_eq h
    exact Snapshot.update_rangeKept (fun _ => hreplaced e rfl) hrange
  | refresh values =>
    obtain rfl := Option.some.inj h
    exact Snapshot.assignEach_rangeKept values.members hrange
  | loadInitial initial =>
    obtain rfl := Option.some.inj h
    exact Snapshot.assignEach_rangeKept initial.members hrange
  | reset =>
    obtain rfl := Option.some.inj h
    exact Snapshot.assignEach_rangeKept p.published.initial.members hrange
  | applyOutcome changes =>
    obtain rfl := edit?_applyOutcome h
    exact Snapshot.assignEach_rangeKept _ hrange

/-- What is published keeps the ranges that an edit has kept. -/
theorem publish_rangeKept (hr : p.registry.Sound p.engine) {next : Snapshot} (h : RangeKept id next.elements) :
    RangeKept id (p.publish next).panel.published.elements := by
  rw [publish_published hr]
  exact Evaluation.run_rangeKept p.engine _ p.limit h

/-- **A session** keeps a range that all replacements keep. -/
theorem after_rangeKept (hp : p.Valid) (h : RangeKept id p.published.elements) (ops : List Operation)
    (hreplaced : ∀ e, .replaceElement e ∈ ops → e.id = id → e.KeepsRange) :
    RangeKept id (p.after ops).published.elements := by
  induction ops generalizing p with
  | nil => exact h
  | cons op ops ih =>
    rw [after_cons]
    refine ih (after_valid hp [op]) ?_ fun e he => hreplaced e (List.mem_cons_of_mem _ he)
    rw [after_one]
    cases hnext : p.edit? op with
    | none => exact h
    | some next =>
      refine publish_rangeKept hp.sound ?_
      exact edit?_rangeKept hnext h fun e he => hreplaced e (he ▸ List.mem_cons_self)

/-- **Ranges.** In whatever a session publishes, an element that has a range, with bounds that are finite and
in order, has its value between them if the value is a number. This takes that the element was within its
range in the definition and whenever it was replaced; no other operation, and no hook, leads out of it. -/
theorem published_inRange {engine : Engine Program} {limit : Nat} {d : Definition} {u : Update Program}
    (hu : ofDefinition? engine limit d = .ok u) (ops : List Operation) :
    ∀ e ∈ (u.panel.after ops).published.elements,
      (∀ given, given ∈ d.elements ∨ .replaceElement given ∈ ops → given.id = e.id → given.KeepsRange) →
      e.KeepsRange := by
  intro e he hgiven
  obtain ⟨hd, rfl⟩ := ofDefinition?_eq_ok_iff.1 hu
  have hstart : RangeKept e.id (ofSnapshot engine limit d.title
      ⟨d.elements, Snapshot.valuesOf d.elements, hd⟩).panel.published.elements :=
    publish_rangeKept Registry.sound_empty fun given hmem => hgiven given (.inl hmem)
  exact after_rangeKept (ofSnapshot_valid engine limit d.title _) hstart ops
    (fun given hmem => hgiven given (.inr hmem)) e he rfl

/-! ## A slider -/

open Script

/-- A slider from zero to ten. -/
def slider : Element :=
  { id := "s", type := .slider, value := .int 5, min := some 0, max := some 10 }

def sliderForm : Snapshot := ⟨[slider], Snapshot.valuesOf [slider], by decide⟩

/-- A session that replaces it within its range and then loads a value beyond: it stays in range. -/
theorem published_inRange_slider :
    let replacement : Element := { slider with value := .int 7 }
    let ops : List Operation := [.replaceElement replacement, .loadInitial (.ofList [("s", .int 99)])]
    ∃ u, ofDefinition? (Sandbox.engine {}) 8 { elements := [slider] } = .ok u ∧
      slider.KeepsRange ∧ replacement.KeepsRange ∧
      ∃ e ∈ (u.panel.after ops).published.elements, e.value = .int 10 ∧ e.KeepsRange := by
  intro replacement ops
  have hu : ofDefinition? (Sandbox.engine {}) 8 { elements := [slider] } =
      .ok (ofSnapshot (Sandbox.engine {}) 8 none sliderForm) := rfl
  have hslider : slider.KeepsRange := by decide +kernel
  have hreplacement : replacement.KeepsRange := by decide +kernel
  have hpublished : { slider with value := .int 10 } ∈
      ((ofSnapshot (Sandbox.engine {}) 8 none sliderForm).panel.after ops).published.elements := by
    decide +kernel
  refine ⟨_, hu, hslider, hreplacement, _, hpublished, rfl, ?_⟩
  refine published_inRange hu ops _ hpublished fun given hgiven _ => ?_
  rcases hgiven with hgiven | hgiven
  · obtain rfl := List.mem_singleton.1 hgiven
    exact hslider
  · rcases List.mem_cons.1 hgiven with hgiven | hgiven
    · obtain rfl := Operation.replaceElement.inj hgiven
      exact hreplacement
    · cases List.mem_singleton.1 hgiven

/-- **A replacement is not moved into range.** A slider whose value is within its bounds, replaced by one
whose value is not, is published with that value. -/
theorem replaced_beyond_range :
    let replacement : Element := { slider with value := .int 99 }
    ∃ u, ofDefinition? (Sandbox.engine {}) 8 { elements := [slider] } = .ok u ∧
      slider.KeepsRange ∧
      (u.panel.after [.replaceElement replacement]).published.elements = [replacement] ∧
      BoundsInOrder replacement.min replacement.max ∧ ¬replacement.InRange := by
  intro replacement
  refine ⟨ofSnapshot (Sandbox.engine {}) 8 none sliderForm, rfl, ?_, rfl, ?_, ?_⟩
  · decide +kernel
  · decide +kernel
  · decide +kernel

end Panel

end LiveForm

import LiveForm.Proofs.Evaluation.Cascade
import LiveForm.Proofs.Form.Values
import LiveForm.Proofs.Panel.Integrity
import LiveForm.Proofs.Panel.Range

/-!
# Going back to initial values

A reset sets the elements that have an initial value to it, and like every value it is moved into range on
the way. Two things may hence differ from the initial values right after a reset (`Element.missed?`): an
initial value out of range, of which the element gets what is in range, and an element that has no initial
value, since other ones were loaded that do not mention it. It keeps its value. That is all, if no hook reacts
to values (`reset_restores`), and a second reset changes no value.

Without such hooks an evaluation derives and does nothing else, so that the published values are those of the
edit.
-/

namespace LiveForm

variable {Program : Type}

/-- What a reset leaves of the difference of an element from its initial value. -/
def Element.missed? (initial : Values) (e : Element) : Option ValueChange :=
  match initial.lookup e.id with
  | some v => if v.same (e.clamp v) then none else some ⟨e.id, v, e.clamp v⟩
  | none => if e.value = .null then none else some ⟨e.id, .null, e.value⟩

theorem Snapshot.changeFromInitial?_assign (s : Snapshot) (e : Element) :
    s.changeFromInitial? (s.initial.assign e) = e.missed? s.initial := by
  rw [changeFromInitial?, Values.assign_id, Element.missed?]
  cases h : s.initial.lookup e.id with
  | some v =>
    rw [Values.assign_of_lookup h]
    rfl
  | none =>
    rw [Values.assign_of_lookup_none h]
    simp only [Option.getD_none, Json.same, Json.sameBy_null]

/-! ## Forms whose hooks do not react -/

/-- No element has a hook that reacts to values. -/
def Silent (es : List Element) : Prop := ∀ e ∈ es, ¬e.Reacts

instance (es : List Element) : Decidable (Silent es) := inferInstanceAs (Decidable (∀ e ∈ es, ¬e.Reacts))

theorem Silent.of_frame {es es' : List Element} (h : Silent es)
    (hframe : es'.map Element.frame = es.map Element.frame) : Silent es' := by
  intro e he hreacts
  obtain ⟨e', he', hframe'⟩ := mem_of_frame hframe he
  exact h e' he' (Element.reacts_of_frame hframe' hreacts)

theorem Silent.hooks {es : List Element} (h : Silent es) (engine : Engine Program) :
    ∀ own ∈ es.map engine.hooksOf, own.onValueChanged = none := by
  refine List.forall_mem_map.2 fun e he => ?_
  have hsource : e.hooks.source? .onValueChanged = none := by
    have hreacts := h e he
    rwa [Element.Reacts, Option.not_isSome_iff_eq_none] at hreacts
  show (e.hooks.source? .onValueChanged).map engine.compiled = none
  rw [hsource, Option.map_none]

/-- Evaluating such a form changes what is derived and nothing else. -/
theorem Evaluation.settled_withoutDerived {s : Snapshot} (h : Silent s.elements) (engine : Engine Program)
    (limit : Nat) :
    (settled engine limit s).elements.map Element.withoutDerived =
      s.elements.map Element.withoutDerived := by
  rw [settled_elements, run_of_silent engine _ (h.hooks engine), derive_withoutDerived]

namespace Operation

theorem mem_foldl_redefine {ops : List Operation} {es : List Element} {e : Element}
    (h : e ∈ ops.foldl redefine es) : e ∈ es ∨ .replaceElement e ∈ ops := by
  induction ops generalizing es with
  | nil => exact .inl h
  | cons op ops ih =>
    rcases ih h with h | h
    · cases op with
      | replaceElement given =>
        obtain ⟨old, hold, rfl⟩ := List.mem_map.1 h
        split
        · exact .inr List.mem_cons_self
        · exact .inl hold
      | _ => exact .inl h
    · exact .inr (List.mem_cons_of_mem _ h)

end Operation

/-! ## A reset -/

namespace Panel

variable {p : Panel Program}

section

variable (hp : p.Valid) (hsilent : Silent p.published.elements)

include hp

theorem reset_published : p.reset.panel.published =
    Evaluation.settled p.engine p.limit (p.published.setValues p.published.initial) :=
  publish_published hp.sound

theorem reset_ids : p.reset.panel.published.ids = p.published.ids := by
  rw [reset_published hp, Evaluation.settled_ids, Snapshot.setValues_ids]

theorem reset_initial : p.reset.panel.published.initial = p.published.initial := by
  rw [reset_published hp]
  exact p.published.setValues_initial _

theorem reset_valid : p.reset.panel.Valid :=
  publish_valid hp.sound

include hsilent

/-- **A reset** assigns the initial values, what is derived apart. -/
theorem reset_withoutDerived :
    p.reset.panel.published.elements.map Element.withoutDerived =
      (p.published.elements.map p.published.initial.assign).map Element.withoutDerived := by
  rw [reset_published hp, Evaluation.settled_withoutDerived, Snapshot.setValues_eq_map]
  exact hsilent.of_frame (p.published.setValues_frame _)

theorem reset_changedFromInitial : p.reset.panel.published.changedFromInitial =
    p.published.elements.filterMap (Element.missed? p.published.initial) := by
  -- a change is read off an element with nothing derived of it
  have hread (s : Snapshot) : s.changedFromInitial =
      (s.elements.map Element.withoutDerived).filterMap s.changeFromInitial? := by
    rw [List.filterMap_map]
    rfl
  have hinitial (e : Element) : p.reset.panel.published.changeFromInitial? e =
      p.published.changeFromInitial? e := by
    rw [Snapshot.changeFromInitial?, reset_initial hp]
    rfl
  rw [hread, reset_withoutDerived hp hsilent, List.map_map, List.filterMap_map]
  refine List.filterMap_congr fun e _ => ?_
  rw [← Snapshot.changeFromInitial?_assign]
  exact hinitial _

/-- A second reset finds the elements as it would set them. -/
theorem reset_reset_withoutDerived :
    p.reset.panel.reset.panel.published.elements.map Element.withoutDerived =
      p.reset.panel.published.elements.map Element.withoutDerived := by
  have hsilentAgain : Silent p.reset.panel.published.elements := by
    refine hsilent.of_frame ?_
    rw [reset_published hp, Evaluation.settled_frame, Snapshot.setValues_frame]
  have hreset := reset_withoutDerived hp hsilent
  have hagain := reset_withoutDerived (reset_valid hp) hsilentAgain
  rw [reset_initial hp] at hagain
  generalize p.published.initial = initial at hreset hagain
  have hassign (es : List Element) : (es.map Element.withoutDerived).map initial.assign =
      (es.map initial.assign).map Element.withoutDerived := by
    rw [List.map_map, List.map_map]
    exact List.map_congr_left fun e _ => initial.assign_withoutDerived e
  have htwice (es : List Element) : (es.map initial.assign).map initial.assign =
      es.map initial.assign := by
    rw [List.map_map]
    exact List.map_congr_left fun e _ => initial.assign_assign e
  rw [hagain, ← hassign, hreset, hassign, htwice]

/-- So it tells of no change of a value. -/
theorem reset_reset_values : p.reset.panel.reset.diff.values = [] := by
  have hvalid := reset_valid hp
  have hvalues := congrArg (List.map (·.value)) (reset_reset_withoutDerived hp hsilent)
  rw [List.map_map, List.map_map] at hvalues
  exact Diff.values_eq_nil (reset_ids hvalid) hvalues

end

/-- **A reset restores** what it can. Let no hook of a form react to values, neither in its definition nor in
an element that is replaced. After any session, a reset keeps the initial values and assigns them to the
elements, what is derived apart. What differs from the initial values then are the elements whose initial
value is out of range and those that have a value and no initial one. So nothing differs just if every initial
value is the same in range and every element without one has no value. And a second reset changes no
value. -/
theorem reset_restores {engine : Engine Program} {limit : Nat} {d : Definition} {u : Update Program}
    (hu : ofDefinition? engine limit d = .ok u) {ops : List Operation}
    (hsilent : ∀ e, e ∈ d.elements ∨ .replaceElement e ∈ ops → ¬e.Reacts) :
    let p := u.panel.after ops
    let q := p.reset.panel
    q.published.initial = p.published.initial ∧
      q.published.elements.map Element.withoutDerived =
        (p.published.elements.map p.published.initial.assign).map Element.withoutDerived ∧
      q.published.changedFromInitial =
        p.published.elements.filterMap (Element.missed? p.published.initial) ∧
      (q.published.changedFromInitial = [] ↔ ∀ e ∈ p.published.elements,
        match p.published.initial.lookup e.id with
        | some v => v.same (e.clamp v) = true
        | none => e.value = .null) ∧
      q.reset.diff.values = [] := by
  intro p q
  obtain ⟨hp, hkeeps⟩ := ofDefinition?_keeps hu ops
  have hpsilent : Silent p.published.elements := by
    refine Silent.of_frame (fun e he => ?_) hkeeps.frames
    exact hsilent e (Operation.mem_foldl_redefine he)
  have hchanged := reset_changedFromInitial hp hpsilent
  refine ⟨reset_initial hp, reset_withoutDerived hp hpsilent, hchanged, ?_, reset_reset_values hp hpsilent⟩
  rw [hchanged, List.filterMap_eq_nil_iff]
  refine forall₂_congr fun e he => ?_
  rw [Element.missed?]
  cases p.published.initial.lookup e.id <;> simp

/-! ## A text and a slider -/

open Script

/-- A text that has a value. -/
def note : Element := { id := "a", type := .text, value := .str "x" }

/-- A session that loads an initial value for one of two elements, sets the values of both, and resets. -/
theorem reset_restores_partly :
    let ops : List Operation :=
      [.loadInitial (.ofList [("s", .int 3)]), .setValue "s" (.int 99), .refresh (.ofList [("a", .str "y")])]
    ∃ u, ofDefinition? (Sandbox.engine {}) 8 { elements := [note, slider] } = .ok u ∧
      ¬note.Reacts ∧ ¬slider.Reacts ∧
      (u.panel.after ops).reset.panel.published.elements.map (·.value) = [.str "y", .int 3] ∧
      (u.panel.after ops).reset.panel.published.changedFromInitial = [⟨"a", .null, .str "y"⟩] ∧
      (u.panel.after ops).reset.panel.reset.diff.values = [] := by
  intro ops
  have hu : ofDefinition? (Sandbox.engine {}) 8 { elements := [note, slider] } =
      .ok (ofSnapshot (Sandbox.engine {}) 8 none
        ⟨[note, slider], Snapshot.valuesOf [note, slider], by decide⟩) := rfl
  have hsilent : ∀ e, e ∈ [note, slider] ∨ .replaceElement e ∈ ops → ¬e.Reacts := by
    rintro e (he | he)
    · rcases List.mem_pair.1 he with rfl | rfl
      · decide
      · decide
    · simp [ops] at he
  obtain ⟨-, hassigned, hchanged, -, hagain⟩ := reset_restores hu hsilent
  have hvalues := congrArg (List.map (·.value)) hassigned
  rw [List.map_map] at hvalues
  refine ⟨_, hu, by decide, by decide, hvalues.trans ?_, hchanged.trans ?_, hagain⟩
  · decide +kernel
  · decide +kernel

/-- **Neither ids without an initial value nor values out of range** are restored. A text keeps its value if
the values that were loaded do not mention it, and then differs from having none. A slider is given the bound
for an initial value beyond it, and then differs from that. -/
theorem reset_misses :
    ¬note.Reacts ∧ ¬slider.Reacts ∧
      (∃ u, ofDefinition? (Sandbox.engine {}) 8 { elements := [note] } = .ok u ∧
        (u.panel.after [.loadInitial ∅]).reset.panel.published.changedFromInitial =
          [⟨"a", .null, .str "x"⟩]) ∧
      ∃ u, ofDefinition? (Sandbox.engine {}) 8 { elements := [slider] } = .ok u ∧
        (u.panel.after [.loadInitial (.ofList [("s", .int 99)])]).reset.panel.published.changedFromInitial =
          [⟨"s", .int 99, .int 10⟩] := by
  refine ⟨by decide, by decide, ⟨_, rfl, ?_⟩, _, rfl, ?_⟩
  · decide +kernel
  · decide +kernel

end Panel

end LiveForm

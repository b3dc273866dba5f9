import LiveForm.Panel
import LiveForm.Proofs.Evaluation.FixedPoint
import LiveForm.Proofs.Form.Edits

/-!
# Sessions with a panel

A session is a list of operations done to one panel. Whatever the operation, it comes to one of three
things: it **fails** and leaves the panel, it **finds nothing to do**, or it **publishes** the evaluation of
an edited snapshot (`after_one`), which has the ids of the published one in their order (`perform_cases`). The
registry stays sound (`Panel.Valid`), and what every publication establishes holds after every session
(`after_induction`).
-/

namespace LiveForm

/-- What can be done to a panel. -/
inductive Operation where
  | setValue (id : String) (value : Json)
  | replaceElement (e : Element)
  | refresh (values : Values)
  | loadInitial (initial : Values)
  | reset
  | applyOutcome (changes : List ValueAssignment)

namespace Panel

variable {Program : Type} {engine : Engine Program} {limit : Nat} {p : Panel Program}

/-! ## Operations -/

/-- One operation. -/
def perform (p : Panel Program) : Operation → Except FormError (Update Program)
  | .setValue id value => p.setValue id value
  | .replaceElement e => p.replaceElement e
  | .refresh values => .ok (p.refresh values)
  | .loadInitial initial => .ok (p.loadInitial initial)
  | .reset => .ok p.reset
  | .applyOutcome changes => .ok (p.applyOutcome changes)

/-- The edited snapshot that an operation evaluates. There is none if it fails or finds nothing to do. -/
def edit? (p : Panel Program) : Operation → Option Snapshot
  | .setValue id value => p.published.setValue? id value
  | .replaceElement e => p.published.replace? e
  | .refresh values => some (p.published.setValues values)
  | .loadInitial initial => some (p.published.setInitial initial)
  | .reset => some (p.published.setValues p.published.initial)
  | .applyOutcome changes =>
    let values := p.knownValues changes
    if values.members.isEmpty then none else some (p.published.setValues values)

theorem edit?_applyOutcome {changes : List ValueAssignment} {next : Snapshot}
    (h : p.edit? (.applyOutcome changes) = some next) :
    next = p.published.setValues (p.knownValues changes) := by
  rw [edit?, Option.ite_none_left_eq_some] at h
  exact (Option.some.inj h.2).symm

theorem edit?_ids {op : Operation} {next : Snapshot} (h : p.edit? op = some next) :
    next.ids = p.published.ids := by
  cases op with
  | setValue id value => exact Snapshot.setValue?_ids h
  | replaceElement e => exact Snapshot.replace?_ids h
  | refresh values =>
    obtain rfl := Option.some.inj h
    exact p.published.setValues_ids values
  | loadInitial initial =>
    obtain rfl := Option.some.inj h
    exact p.published.setInitial_ids initial
  | reset =>
    obtain rfl := Option.some.inj h
    exact p.published.setValues_ids p.published.initial
  | applyOutcome changes =>
    obtain rfl := edit?_applyOutcome h
    exact p.published.setValues_ids _

/-- What an operation comes to is what its edit comes to. -/
theorem perform_edit? (p : Panel Program) (op : Operation) :
    match p.edit? op with
    | some next => p.perform op = .ok (p.publish next)
    | none => p.perform op = .ok { panel := p } ∨ ∃ error, p.perform op = .error error := by
  cases op with
  | setValue id value =>
    simp only [edit?, perform, setValue]
    cases p.published.setValue? id value with
    | some next => rfl
    | none => exact .inr ⟨_, rfl⟩
  | replaceElement e =>
    simp only [edit?, perform, replaceElement]
    cases p.published.replace? e with
    | some next => rfl
    | none => exact .inr ⟨_, rfl⟩
  | refresh values => rfl
  | loadInitial initial => rfl
  | reset => rfl
  | applyOutcome changes =>
    simp only [edit?, perform, applyOutcome]
    cases (p.knownValues changes).members.isEmpty with
    | true => exact .inl rfl
    | false => rfl

/-- **An operation** that succeeds leaves the panel as it is, with no difference to tell, or publishes its
edit. -/
theorem perform_eq_ok {op : Operation} {u : Update Program} (h : p.perform op = .ok u) :
    u = { panel := p } ∨ ∃ next, p.edit? op = some next ∧ u = p.publish next := by
  have hedit := perform_edit? p op
  cases hnext : p.edit? op with
  | some next =>
    rw [hnext] at hedit
    exact .inr ⟨next, rfl, Except.ok.inj (h.symm.trans hedit)⟩
  | none =>
    rw [hnext] at hedit
    rcases hedit with hsame | ⟨error, hfails⟩
    · exact .inl (Except.ok.inj (h.symm.trans hsame))
    · rw [hfails] at h
      cases h

/-- What is published has the ids that were there. -/
theorem perform_cases {op : Operation} {u : Update Program} (h : p.perform op = .ok u) :
    u = { panel := p } ∨ ∃ next : Snapshot, next.ids = p.published.ids ∧ u = p.publish next := by
  rcases perform_eq_ok h with hsame | ⟨next, hnext, hu⟩
  · exact .inl hsame
  · exact .inr ⟨next, edit?_ids hnext, hu⟩

/-! ## What every operation keeps -/

/-- A panel whose registry is sound. That its elements are distinct is the snapshot's own affair. -/
structure Valid (p : Panel Program) : Prop where
  sound : p.registry.Sound p.engine

theorem publish_published (hr : p.registry.Sound p.engine) {next : Snapshot} :
    (p.publish next).panel.published = Evaluation.settled p.engine p.limit next :=
  Evaluation.evaluate_snapshot (hr.retain next.elements)

theorem publish_valid (hr : p.registry.Sound p.engine) {next : Snapshot} : (p.publish next).panel.Valid where
  sound := Evaluation.evaluate_sound p.limit (hr.retain next.elements)

/-- A new panel is a publication of a panel without a registry. -/
theorem ofSnapshot_valid (engine : Engine Program) (limit : Nat) (title : Option String)
    (s : Snapshot) : (ofSnapshot engine limit title s).panel.Valid :=
  publish_valid Registry.sound_empty

theorem ofSnapshot_published (engine : Engine Program) (limit : Nat) (title : Option String)
    (s : Snapshot) :
    (ofSnapshot engine limit title s).panel.published = Evaluation.settled engine limit s :=
  publish_published Registry.sound_empty

theorem ofSnapshot_converged (engine : Engine Program) (limit : Nat) (title : Option String)
    (s : Snapshot) : (ofSnapshot engine limit title s).panel.stats.converged =
      (Evaluation.run engine (s.elements.map engine.hooksOf) limit s.elements).converged :=
  Evaluation.evaluate_converged (Registry.sound_empty.retain s.elements)

/-- A form has a panel just if its ids are distinct. -/
theorem ofDefinition?_eq_ok_iff {d : Definition} {u : Update Program} :
    ofDefinition? engine limit d = .ok u ↔ ∃ hd : Distinct d.elements,
      u = ofSnapshot engine limit d.title ⟨d.elements, Snapshot.valuesOf d.elements, hd⟩ := by
  rw [ofDefinition?, Snapshot.ofDefinition?]
  cases hs : Snapshot.ofElements? d.elements (Snapshot.valuesOf d.elements) with
  | ok s =>
    obtain ⟨hd, rfl⟩ := Snapshot.ofElements?_eq_ok.1 hs
    simp only [Except.ok.injEq, hd, exists_true_left]
    exact eq_comm
  | error id =>
    have hnone : ¬Distinct d.elements := by
      intro hd
      rw [Snapshot.ofElements?_of_distinct hd] at hs
      cases hs
    simp [hnone]

/-- A panel of a form is one of a snapshot. -/
theorem ofDefinition?_eq_ok {d : Definition} {u : Update Program}
    (h : ofDefinition? engine limit d = .ok u) : ∃ s : Snapshot, u = ofSnapshot engine limit d.title s := by
  obtain ⟨hd, rfl⟩ := ofDefinition?_eq_ok_iff.1 h
  exact ⟨_, rfl⟩

/-- The panel of a form shows what the first evaluation leaves. -/
theorem ofDefinition?_panel {d : Definition} {u : Update Program} (h : ofDefinition? engine limit d = .ok u) :
    let run := Evaluation.run engine (d.elements.map engine.hooksOf) limit d.elements
    u.panel.Valid ∧ u.panel.engine = engine ∧ u.panel.limit = limit ∧
      u.panel.published.elements = run.elements ∧ u.panel.stats.converged = run.converged := by
  obtain ⟨hd, rfl⟩ := ofDefinition?_eq_ok_iff.1 h
  refine ⟨ofSnapshot_valid .., rfl, rfl, ?_, ofSnapshot_converged ..⟩
  rw [ofSnapshot_published, Evaluation.settled_elements]

/-! ## Sessions -/

/-- A panel after a session. An operation that fails leaves it as it is. -/
def after (p : Panel Program) : List Operation → Panel Program
  | [] => p
  | op :: ops =>
    match p.perform op with
    | .ok u => u.panel.after ops
    | .error _ => p.after ops

/-- A session of one operation. -/
theorem after_one (p : Panel Program) (op : Operation) :
    p.after [op] = match p.edit? op with
      | some next => (p.publish next).panel
      | none => p := by
  have hedit := perform_edit? p op
  cases hnext : p.edit? op with
  | some next =>
    rw [hnext] at hedit
    simp only [after, hedit]
  | none =>
    rw [hnext] at hedit
    rcases hedit with hsame | ⟨error, hfails⟩
    · simp only [after, hsame]
    · simp only [after, hfails]

/-- A session of one edit, by what it publishes. -/
theorem after_setValue (hp : p.Valid) {id : String} (h : id ∈ p.published.ids) (value : Json) :
    let next := p.published.assignValue id value
    (p.after [.setValue id value]).published = Evaluation.settled p.engine p.limit next ∧
      (p.after [.setValue id value]).stats.converged =
        (Evaluation.run p.engine (next.elements.map p.engine.hooksOf) p.limit next.elements).converged := by
  intro next
  have hafter : p.after [.setValue id value] = (p.publish next).panel := by
    rw [after_one, edit?, Snapshot.setValue?_of_mem h]
  rw [hafter]
  exact ⟨publish_published hp.sound, Evaluation.evaluate_converged (hp.sound.retain next.elements)⟩

theorem after_of_perform {op : Operation} {u : Update Program} (h : p.perform op = .ok u) :
    p.after [op] = u.panel := by
  simp only [after, h]

theorem after_cons (p : Panel Program) (op : Operation) (ops : List Operation) :
    p.after (op :: ops) = (p.after [op]).after ops := by
  simp only [after]
  split <;> rfl

/-- The differences a session has told, one for each operation that did not fail. -/
def diffs (p : Panel Program) : List Operation → List Diff
  | [] => []
  | op :: ops =>
    match p.perform op with
    | .ok u => u.diff :: u.panel.diffs ops
    | .error _ => p.diffs ops

/-- What every publication establishes holds after every session. -/
theorem after_induction {P : Panel Program → Prop}
    (hpublish : ∀ (p : Panel Program) (next : Snapshot), p.Valid → next.ids = p.published.ids →
      P p → P (p.publish next).panel)
    (hp : p.Valid) (h : P p) (ops : List Operation) : P (p.after ops) ∧ (p.after ops).Valid := by
  induction ops generalizing p with
  | nil => exact ⟨h, hp⟩
  | cons op ops ih =>
    simp only [after]
    split
    · next u hu =>
      rcases perform_cases hu with rfl | ⟨next, hids, rfl⟩
      · exact ih hp h
      · exact ih (publish_valid hp.sound) (hpublish p next hp hids h)
    · exact ih hp h

theorem after_valid (hp : p.Valid) (ops : List Operation) : (p.after ops).Valid :=
  (after_induction (P := fun _ => True) (fun _ _ _ _ _ => trivial) hp trivial ops).2

theorem after_engine (hp : p.Valid) (ops : List Operation) : (p.after ops).engine = p.engine :=
  (after_induction (P := fun q => q.engine = p.engine) (fun _ _ _ _ h => h) hp rfl ops).1

end Panel

end LiveForm

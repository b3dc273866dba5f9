import LiveForm.Proofs.Evaluation.Checked
import LiveForm.Proofs.Evaluation.Convergence
import LiveForm.Proofs.Panel.Session

/-!
# The structure of a running form

A form is built of elements with distinct ids, or not at all. From then on its structure is as firm as its
definition: what a session publishes are the elements of the definition in their order, with other values,
flags and derived options. The rest of an element is redefined by replacing that element and by nothing else
(`Operation.redefine`), and the initial values are changed by loading others (`Operation.initially`). No
script has a part in this, whatever it does to its copies, and every place that an evaluation goes to is in
bounds. So an operation that names an element fails just if the definition has none of that id
(`integrity`).
-/

namespace LiveForm

variable {Program : Type}

/-! ## What operations do to a definition -/

namespace Operation

/-- The elements as an operation defines them: only replacing one defines it anew. -/
def redefine (es : List Element) : Operation → List Element
  | .replaceElement e => es.map fun old => if old.id == e.id then e else old
  | _ => es

/-- The initial values after an operation: only loading others changes them. -/
def initially (initial : Values) : Operation → Values
  | .loadInitial loaded => loaded
  | _ => initial

/-- Replacing redefines by frames. -/
theorem redefine_frame {es es' : List Element} (op : Operation)
    (h : es.map Element.frame = es'.map Element.frame) :
    (op.redefine es).map Element.frame = (op.redefine es').map Element.frame := by
  cases op with
  | replaceElement e =>
    rw [redefine, redefine, List.map_map, List.map_map]
    refine map_eq_of_frame _ (fun old => ?_) h
    rw [Function.comp_apply, Function.comp_apply, Element.frame_id]
    cases old.id == e.id <;> rfl
  | _ => exact h

/-- Replacing an element that is not there redefines nothing. -/
theorem redefine_absent {es : List Element} {e : Element} (h : e.id ∉ es.map (·.id)) :
    redefine es (.replaceElement e) = es := by
  refine (List.map_congr_left fun old hold => ?_).trans (List.map_id es)
  have hid : (old.id == e.id) = false :=
    beq_false_of_ne fun hid => h (List.mem_map.2 ⟨old, hold, hid⟩)
  rw [hid]
  rfl

theorem redefine_ids (es : List Element) (op : Operation) :
    (op.redefine es).map (·.id) = es.map (·.id) := by
  cases op with
  | replaceElement e =>
    rw [redefine, List.map_map]
    refine List.map_congr_left fun old _ => ?_
    rw [Function.comp_apply]
    split
    · next h => exact (beq_iff_eq.1 h).symm
    · rfl
  | _ => rfl

end Operation

namespace Panel

variable {p : Panel Program}

/-! ## One operation -/

/-- A panel that publishes these elements, values and derived state apart, with these initial values. -/
structure Keeps (p : Panel Program) (es : List Element) (initial : Values) : Prop where
  frames : p.published.elements.map Element.frame = es.map Element.frame
  initial : p.published.initial = initial

theorem Keeps.ids {es : List Element} {initial : Values} (h : p.Keeps es initial) :
    p.published.ids = es.map (·.id) := ids_eq_of_frame h.frames

/-- Publishing evaluates, and this keeps frames and initial values. -/
theorem publish_keeps (hr : p.registry.Sound p.engine) {next : Snapshot} {es : List Element} {initial : Values}
    (hframes : next.elements.map Element.frame = es.map Element.frame)
    (hinitial : next.initial = initial) : (p.publish next).panel.Keeps es initial := by
  constructor
  · rw [publish_published hr, Evaluation.settled_frame, hframes]
  · rw [publish_published hr]
    exact hinitial

/-- The edit of an operation redefines what the operation says. -/
theorem edit?_keeps {op : Operation} {next : Snapshot} (h : p.edit? op = some next) :
    next.elements.map Element.frame = (op.redefine p.published.elements).map Element.frame ∧
      next.initial = op.initially p.published.initial := by
  have hvalues (values : Values) :
      (p.published.setValues values).elements.map Element.frame =
          p.published.elements.map Element.frame ∧
        (p.published.setValues values).initial = p.published.initial :=
    ⟨p.published.setValues_frame values, p.published.setValues_initial values⟩
  cases op with
  | setValue id value => exact Snapshot.setValue?_keeps h
  | replaceElement e =>
    obtain rfl := Snapshot.replace?_eq h
    exact ⟨rfl, rfl⟩
  | refresh values =>
    obtain rfl := Option.some.inj h
    exact hvalues values
  | loadInitial loaded =>
    obtain rfl := Option.some.inj h
    exact ⟨p.published.setValues_frame loaded, rfl⟩
  | reset =>
    obtain rfl := Option.some.inj h
    exact hvalues p.published.initial
  | applyOutcome changes =>
    obtain rfl := edit?_applyOutcome h
    exact hvalues _

/-- An operation without an edit redefines nothing. -/
theorem edit?_none {op : Operation} (h : p.edit? op = none) :
    op.redefine p.published.elements = p.published.elements ∧
      op.initially p.published.initial = p.published.initial := by
  cases op with
  | replaceElement e => exact ⟨Operation.redefine_absent (Snapshot.replace?_eq_none.1 h), rfl⟩
  | loadInitial loaded =>
    -- there is always something to load
    cases h
  | _ => exact ⟨rfl, rfl⟩

/-- **An operation** redefines what it says, whether it fails or not. -/
theorem Keeps.after_one (hp : p.Valid) {es : List Element} {initial : Values}
    (h : p.Keeps es initial) (op : Operation) :
    (p.after [op]).Keeps (op.redefine es) (op.initially initial) := by
  have hframes := op.redefine_frame h.frames
  rw [Panel.after_one, ← h.initial]
  cases hnext : p.edit? op with
  | some next =>
    obtain ⟨hnextFrames, hnextInitial⟩ := edit?_keeps hnext
    exact publish_keeps hp.sound (hnextFrames.trans hframes) hnextInitial
  | none =>
    obtain ⟨hsame, hinitial⟩ := edit?_none hnext
    rw [hsame] at hframes
    exact ⟨hframes, hinitial.symm⟩

/-- **A session** redefines what its operations do, one after the other. -/
theorem Keeps.after (hp : p.Valid) {es : List Element} {initial : Values} (h : p.Keeps es initial)
    (ops : List Operation) :
    (p.after ops).Keeps (ops.foldl Operation.redefine es) (ops.foldl Operation.initially initial) := by
  induction ops generalizing p es initial with
  | nil => exact h
  | cons op ops ih =>
    rw [after_cons]
    exact ih (after_valid hp [op]) (h.after_one hp op)

theorem foldl_redefine_ids (ops : List Operation) (es : List Element) :
    (ops.foldl Operation.redefine es).map (·.id) = es.map (·.id) := by
  induction ops generalizing es with
  | nil => rfl
  | cons op ops ih => exact (ih _).trans (op.redefine_ids es)

/-- A panel of a form, after any session. -/
theorem ofDefinition?_keeps {engine : Engine Program} {limit : Nat} {d : Definition} {u : Update Program}
    (hu : ofDefinition? engine limit d = .ok u) (ops : List Operation) :
    (u.panel.after ops).Valid ∧ (u.panel.after ops).Keeps (ops.foldl Operation.redefine d.elements)
      (ops.foldl Operation.initially (Snapshot.valuesOf d.elements)) := by
  obtain ⟨hd, rfl⟩ := ofDefinition?_eq_ok_iff.1 hu
  have hvalid := ofSnapshot_valid engine limit d.title ⟨d.elements, Snapshot.valuesOf d.elements, hd⟩
  have hstart : (ofSnapshot engine limit d.title
      ⟨d.elements, Snapshot.valuesOf d.elements, hd⟩).panel.Keeps d.elements (Snapshot.valuesOf d.elements) :=
    publish_keeps Registry.sound_empty rfl rfl
  exact ⟨after_valid hvalid ops, hstart.after hvalid ops⟩

/-! ## What fails -/

theorem setValue_eq_error {id : String} {value : Json} {error : FormError} :
    p.setValue id value = .error error ↔ id ∉ p.published.ids ∧ error = .elementNotFound id := by
  rw [← Snapshot.setValue?_eq_none, setValue]
  cases p.published.setValue? id value with
  | none => simp [eq_comm]
  | some next => simp

theorem replaceElement_eq_error {e : Element} {error : FormError} :
    p.replaceElement e = .error error ↔ e.id ∉ p.published.ids ∧ error = .elementNotFound e.id := by
  rw [← Snapshot.replace?_eq_none, replaceElement]
  cases p.published.replace? e with
  | none => simp [eq_comm]
  | some next => simp

theorem actionRequest_eq_error {id : String} {error : FormError} :
    p.actionRequest id = .error error ↔
      id ∉ p.published.ids ∧ error = .elementNotFound id ∨
        ∃ e, p.published.get? id = some e ∧ e.capabilities.action = false ∧ error = .notAButton id := by
  rw [← Snapshot.get?_eq_none, actionRequest]
  cases p.published.get? id with
  | none =>
    simp only [reduceCtorEq, false_and, exists_false, or_false, true_and, Except.error.injEq]
    exact eq_comm
  | some e =>
    simp only [reduceCtorEq, false_and, false_or, Option.some.injEq, exists_eq_left']
    cases e.capabilities.action with
    | true => simp only [if_true, reduceCtorEq, false_and, Bool.true_eq_false]
    | false =>
      simp only [Bool.false_eq_true, if_false, Except.error.injEq, true_and]
      exact eq_comm

theorem ofDefinition?_eq_error {engine : Engine Program} {limit : Nat} {d : Definition}
    {error : FormError} :
    ofDefinition? engine limit d = .error error ↔
      ∃ front e rest, d.elements = front ++ e :: rest ∧ Distinct front ∧
        e.id ∈ front.map (·.id) ∧ error = .duplicateElement e.id := by
  rw [ofDefinition?, Snapshot.ofDefinition?]
  cases hs : Snapshot.ofElements? d.elements (Snapshot.valuesOf d.elements) with
  | ok s =>
    refine iff_of_false (fun h => by cases h) ?_
    rintro ⟨front, e, rest, hes, hd, hrepeat, -⟩
    rw [Snapshot.ofElements?_eq_error.2 ⟨front, e, rest, hes, hd, hrepeat, rfl⟩] at hs
    cases hs
  | error id =>
    constructor
    · intro herror
      obtain ⟨front, e, rest, hes, hd, hrepeat, rfl⟩ := Snapshot.ofElements?_eq_error.1 hs
      exact ⟨front, e, rest, hes, hd, hrepeat, (Except.error.inj herror).symm⟩
    · rintro ⟨front, e, rest, hes, hd, hrepeat, rfl⟩
      rw [Snapshot.ofElements?_eq_error.2 ⟨front, e, rest, hes, hd, hrepeat, rfl⟩] at hs
      rw [← Except.error.inj hs]

end Panel

/-! ## The structure of a form -/

/-- Evaluation keeps frames and initial values, whatever the registry holds. -/
theorem Evaluation.evaluate_keeps (engine : Engine Program) (limit : Nat) (r : Registry Program)
    (s : Snapshot) :
    (evaluate engine limit r s).snapshot.elements.map Element.frame =
        s.elements.map Element.frame ∧
      (evaluate engine limit r s).snapshot.initial = s.initial := by
  rw [evaluate_snapshot_eq engine limit r s]
  exact ⟨run_frame engine _ limit s.elements, rfl⟩

/-- **Structural integrity.** A form has a panel just if its ids are distinct, and else fails with the first
id that repeats an earlier one. An evaluation goes to no place out of bounds, its outcome is always a
snapshot, and it leaves frames and initial values alone. After any session a panel publishes the ids of the
definition in their order, the frame of every element as it was defined or last replaced, and the initial
values that were loaded last. What an operation publishes is the outcome of a checked evaluation. Setting a
value and replacing an element fail just for ids that are not in the definition; asking for an action does so
too, and for elements that have none. -/
theorem Panel.integrity (engine : Engine Program) (limit : Nat) (d : Definition) :
    ((∃ u, ofDefinition? engine limit d = .ok u) ↔ Distinct d.elements) ∧
    (∀ error, ofDefinition? engine limit d = .error error ↔
      ∃ front e rest, d.elements = front ++ e :: rest ∧ Distinct front ∧
        e.id ∈ front.map (·.id) ∧ error = .duplicateElement e.id) ∧
    (∀ (r : Registry Program) (s : Snapshot),
      let outcome := Evaluation.evaluate engine limit r s
      Evaluation.evaluate? engine limit r s = some outcome ∧
        outcome.snapshot.elements.map Element.frame = s.elements.map Element.frame ∧
        outcome.snapshot.initial = s.initial) ∧
    ∀ u, ofDefinition? engine limit d = .ok u → ∀ ops : List Operation,
      let p := u.panel.after ops
      p.published.ids = d.elements.map (·.id) ∧
        p.published.elements.map Element.frame =
          (ops.foldl Operation.redefine d.elements).map Element.frame ∧
        p.published.initial = ops.foldl Operation.initially (Snapshot.valuesOf d.elements) ∧
        (∀ op v, p.perform op = .ok v →
          v = { panel := p } ∨ ∃ next : Snapshot, v = p.publish next ∧
            (Evaluation.evaluate? p.engine p.limit (p.registry.retain next.elements) next).map
              (·.snapshot) = some v.panel.published) ∧
        (∀ id value error, p.setValue id value = .error error ↔
          id ∉ d.elements.map (·.id) ∧ error = .elementNotFound id) ∧
        (∀ e error, p.replaceElement e = .error error ↔
          e.id ∉ d.elements.map (·.id) ∧ error = .elementNotFound e.id) ∧
        ∀ id error, p.actionRequest id = .error error ↔
          id ∉ d.elements.map (·.id) ∧ error = .elementNotFound id ∨
            ∃ e, p.published.get? id = some e ∧ e.capabilities.action = false ∧
              error = .notAButton id := by
  refine ⟨?_, fun error => ofDefinition?_eq_error, fun r s =>
    ⟨Evaluation.evaluate?_eq engine limit r s, Evaluation.evaluate_keeps engine limit r s⟩, ?_⟩
  · constructor
    · rintro ⟨u, hu⟩
      exact (ofDefinition?_eq_ok_iff.1 hu).1
    · intro hd
      exact ⟨_, ofDefinition?_eq_ok_iff.2 ⟨hd, rfl⟩⟩
  · intro u hu ops p
    obtain ⟨-, hkeeps⟩ := ofDefinition?_keeps hu ops
    have hids : p.published.ids = d.elements.map (·.id) :=
      hkeeps.ids.trans (foldl_redefine_ids ops d.elements)
    refine ⟨hids, hkeeps.frames, hkeeps.initial, fun op v hv => ?_, fun id value error => ?_,
      fun e error => ?_, fun id error => ?_⟩
    · rcases perform_cases hv with rfl | ⟨next, -, rfl⟩
      · exact .inl rfl
      · exact .inr ⟨next, rfl, by rw [Evaluation.evaluate?_eq]; rfl⟩
    · rw [setValue_eq_error, hids]
    · rw [replaceElement_eq_error, hids]
    · rw [actionRequest_eq_error, hids]

namespace Panel

open Script Cascade

/-- A number whose value a hook copies to a text. A session makes a text of it as well, and loads a value. -/
theorem integrity_copy :
    let d : Definition := { elements := [origin, copy] }
    let ops : List Operation :=
      [.replaceElement { origin with type := .text }, .loadInitial (.ofList [("a", .str "new")])]
    ∃ u, ofDefinition? (Sandbox.engine {}) 8 d = .ok u ∧
      (u.panel.after ops).published.ids = ["a", "b"] ∧
      (u.panel.after ops).published.elements.map Element.frame =
        [{ origin with type := .text, value := .null }, copy] ∧
      (u.panel.after ops).published.initial = .ofList [("a", .str "new")] ∧
      (u.panel.after ops).setValue "c" .null = .error (.elementNotFound "c") ∧
      (Evaluation.evaluate? (Sandbox.engine {}) 8 {} ⟨d.elements, ∅, by decide⟩).map (·.changed) = some ["b"] := by
  intro d ops
  obtain ⟨hok, -, hevaluate, hpanel⟩ := integrity (Sandbox.engine {}) 8 d
  have hd : Distinct d.elements := by decide
  obtain ⟨u, hu⟩ := hok.2 hd
  obtain ⟨hids, hframes, hinitial, -, hset, -⟩ := hpanel u hu ops
  have hmissing : "c" ∉ d.elements.map (·.id) := by decide
  refine ⟨u, hu, hids, hframes, hinitial, (hset "c" .null _).2 ⟨hmissing, rfl⟩, ?_⟩
  have hhooks : [origin, copy].map (Sandbox.engine {}).hooksOf =
      [{}, { onValueChanged := some (.script copyProgram) }] := by
    rw [← hooksOf_copy]
    rfl
  rw [(hevaluate {} ⟨d.elements, ∅, hd⟩).1, Option.map_some,
    Evaluation.evaluate_changed Registry.sound_empty, hhooks]
  show some (Evaluation.run _ _ 8 [origin, copy]).changed = _
  decide +kernel

end Panel

end LiveForm

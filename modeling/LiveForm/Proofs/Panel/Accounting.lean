import LiveForm.Proofs.Evaluation.Convergence
import LiveForm.Proofs.Evaluation.Log
import LiveForm.Proofs.Form.Values
import LiveForm.Proofs.Panel.Integrity

/-!
# Where changes come from

A value that a host is told to have changed has been changed by one of two: by the operation itself, which
edits the values of certain ids (`Panel.editedIds`) and leaves the others, or by a hook in the evaluation that
follows, and then the id is among those the evaluation has noted. The difference is found by comparing
snapshots and knows of neither; that it never holds more than the two do is `changes_accounted`.
-/

namespace LiveForm

variable {Program : Type}

/-! ## Values that are not noted -/

/-- What has not been noted in an evaluation has the value it had, if it is there at all. -/
theorem Evaluation.evaluate_valueOf? (engine : Engine Program) (limit : Nat) (r : Registry Program)
    (s : Snapshot) {id : String} (hid : id ∉ (evaluate engine limit r s).changed) :
    (evaluate engine limit r s).snapshot.valueOf? id = s.valueOf? id := by
  have haccounts := evaluate_accounts engine limit r s
  generalize evaluate engine limit r s = o at hid haccounts
  have hids : o.snapshot.ids = s.ids := haccounts.ids
  by_cases hmem : id ∈ s.ids
  · obtain ⟨e, he, rfl⟩ := List.mem_map.1 hmem
    have hmem' : e.id ∈ o.snapshot.ids := hids ▸ hmem
    obtain ⟨e', he', hid'⟩ := List.mem_map.1 hmem'
    have hget := Snapshot.get?_of_mem he'
    rw [hid'] at hget
    rw [Snapshot.valueOf?, Snapshot.valueOf?, Snapshot.get?_of_mem he, hget, Option.map_some,
      Option.map_some, haccounts.value_eq s.distinct he he' hid' hid]
  · have hmem' : id ∉ o.snapshot.ids := fun h => hmem (hids ▸ h)
    rw [Snapshot.valueOf?, Snapshot.valueOf?, Snapshot.get?_eq_none.2 hmem, Snapshot.get?_eq_none.2 hmem']

/-! ## Elements that are not edited -/

namespace Snapshot

variable {s : Snapshot} {e : Element}

theorem mem_update {id : String} (he : e ∈ s.elements) (hne : e.id ≠ id) {f : Element → Element}
    {hf : ∀ x, x.id = id → (f x).id = id} : e ∈ (s.update id f hf).elements :=
  List.mem_map.2 ⟨e, he, if_neg fun h => hne (eq_of_beq h)⟩

theorem mem_assignEach {edits : List (String × Json)} (he : e ∈ s.elements) (hid : e.id ∉ edits.map (·.1)) :
    e ∈ (s.assignEach edits).elements := by
  induction edits generalizing s with
  | nil => exact he
  | cons first edits ih =>
    obtain ⟨hfirst, hrest⟩ := not_or.1 fun h => hid (List.mem_cons.2 h)
    exact ih (mem_update he hfirst) hrest

end Snapshot

namespace Panel

variable {p : Panel Program}

/-- The ids whose values an operation edits, whether they are there or not. -/
def editedIds (p : Panel Program) : Operation → List String
  | .setValue id _ => [id]
  | .replaceElement e => [e.id]
  | .refresh values => values.ids
  | .loadInitial initial => initial.ids
  | .reset => p.published.initial.ids
  | .applyOutcome changes => changes.map (·.id)

theorem knownValues_ids {changes : List ValueAssignment} {id : String}
    (h : id ∈ (p.knownValues changes).ids) : id ∈ changes.map (·.id) := by
  obtain ⟨member, hmember, rfl⟩ := List.mem_map.1 h
  obtain ⟨c, hc, rfl⟩ := List.mem_map.1 (Json.Members.mem_ofList hmember)
  exact List.mem_map_of_mem (List.mem_filter.1 hc).1

/-- **An edit** leaves every element as it is whose id it does not edit. -/
theorem mem_edit? {op : Operation} {next : Snapshot} (h : p.edit? op = some next) {e : Element}
    (he : e ∈ p.published.elements) (hid : e.id ∉ p.editedIds op) : e ∈ next.elements := by
  cases op with
  | setValue id value =>
    obtain rfl := Snapshot.setValue?_eq h
    exact Snapshot.mem_update he fun heq => hid (List.mem_singleton.2 heq)
  | replaceElement given =>
    obtain rfl := Snapshot.replace?_eq h
    exact Snapshot.mem_update he fun heq => hid (List.mem_singleton.2 heq)
  | refresh values =>
    obtain rfl := Option.some.inj h
    exact Snapshot.mem_assignEach he hid
  | loadInitial initial =>
    obtain rfl := Option.some.inj h
    exact Snapshot.mem_assignEach he hid
  | reset =>
    obtain rfl := Option.some.inj h
    exact Snapshot.mem_assignEach he hid
  | applyOutcome changes =>
    obtain rfl := edit?_applyOutcome h
    exact Snapshot.mem_assignEach he fun hmem => hid (knownValues_ids hmem)

/-! ## Differences that are told -/

/-- What a publication tells to have changed has been edited before or noted by the evaluation. -/
theorem publish_accounted {next : Snapshot} {edited : List String}
    (hkept : ∀ e ∈ p.published.elements, e.id ∉ edited → e ∈ next.elements) {c : ValueChange}
    (hc : c ∈ (p.publish next).diff.values) :
    c.id ∈ edited ∨ c.id ∈ (p.publish next).panel.stats.changed := by
  by_contra hneither
  obtain ⟨hedited, hnoted⟩ := not_or.1 hneither
  obtain ⟨⟨old, new⟩, hpair, hchange⟩ := List.mem_filterMap.1 hc
  obtain ⟨e, hnew, hfound⟩ := List.mem_filterMap.1 hpair
  obtain ⟨old', hget, hsame⟩ := Option.map_eq_some_iff.1 hfound
  obtain ⟨rfl, rfl⟩ := Prod.mk.inj hsame
  have hchange : Diff.valueChange? old' e = some c := hchange
  have hid := Diff.valueChange?_id hchange
  have hold : old' ∈ p.published.elements := List.mem_of_find?_eq_some hget
  have hfound := List.find?_some hget
  have hold_id : old'.id = e.id := eq_of_beq hfound
  rw [hid, ← hold_id] at hedited hnoted
  -- neither the operation nor a hook has touched it, so its value is what it was
  have hvalue : e.value = old'.value :=
    (Evaluation.evaluate_accounts p.engine p.limit _ next).value_eq next.distinct (hkept old' hold hedited)
      hnew hold_id.symm hnoted
  rw [Diff.valueChange?, hvalue, Json.same_refl] at hchange
  cases hchange

/-- **What an operation tells** to have changed has been edited by it or noted by the evaluation. -/
theorem perform_accounted {op : Operation} {u : Update Program} (h : p.perform op = .ok u) {c : ValueChange}
    (hc : c ∈ u.diff.values) :
    c.id ∈ p.editedIds op ∨ c.id ∈ u.panel.stats.changed := by
  rcases perform_eq_ok h with rfl | ⟨next, hnext, rfl⟩
  · -- there was nothing to do, and nothing is told
    cases hc
  · exact publish_accounted (fun e he hid => mem_edit? hnext he hid) hc

end Panel

/-- **Every change is accounted for.** In an evaluation, with whatever registry, the ids that are noted are
those of its log, each once and by its first entry. They are ids of the form. Every entry of the log puts
another value in place, and replaying it on the values before gives the values after, so that an id that is
not noted keeps its value. Nothing is noted just if the
evaluation converges in one pass. After any session, every value that an operation tells to have changed is
one the operation has edited or one that is noted in the evaluation it leaves. -/
theorem changes_accounted (engine : Engine Program) (limit : Nat) :
    (∀ (r : Registry Program) (s : Snapshot),
      let o := Evaluation.evaluate engine limit r s
      let log := Evaluation.log engine limit r s
      o.changed = (log.map (·.id)).eraseDups ∧ o.changed.Nodup ∧ (∀ id ∈ o.changed, id ∈ s.ids) ∧
        (∀ c ∈ log, c.before.same c.after = false) ∧
        o.snapshot.elements.map Element.withoutDerived =
          (s.elements.map (Element.replayed log)).map Element.withoutDerived ∧
        (∀ id, id ∉ o.changed → o.snapshot.valueOf? id = s.valueOf? id) ∧
        (o.changed = [] ↔ o.converged = true ∧ o.passes = 1)) ∧
    ∀ (title : Option String) (s : Snapshot) (ops : List Operation) (op : Operation) (u : Update Program),
      let p := (Panel.ofSnapshot engine limit title s).panel.after ops
      p.perform op = .ok u →
        ∀ c ∈ u.diff.values, c.id ∈ p.editedIds op ∨ c.id ∈ u.panel.stats.changed := by
  constructor
  · intro r s o log
    have haccounts := Evaluation.evaluate_accounts engine limit r s
    refine ⟨?_, ?_, ?_, haccounts.differs, haccounts.values, ?_, ?_⟩
    · rw [haccounts.noted, noted_nil]
    · rw [haccounts.noted]
      exact noted_nodup List.nodup_nil log
    · intro id hid
      rw [haccounts.noted, mem_noted_nil] at hid
      obtain ⟨c, hc, rfl⟩ := List.mem_map.1 hid
      exact haccounts.known c hc
    · exact fun id hid => Evaluation.evaluate_valueOf? engine limit r s hid
    · exact Evaluation.run_changed_eq_nil engine _ limit s.distinct
  · intro title s ops op u p hu c hc
    exact Panel.perform_accounted hu hc

/-! ## A value that is copied -/

open Script Cascade

/-- The form where a value has been copied. -/
def copyForm : Snapshot := ⟨[origin, copied], ∅, by decide⟩

/-- The value is edited. -/
def editedForm : Snapshot := ⟨[{ origin with value := .int 9 }, copied], ∅, by decide⟩

theorem hooksOf_copyForm (value : Json) :
    [{ origin with value }, copied].map (Sandbox.engine {}).hooksOf =
      [{}, { onValueChanged := some (.script copyProgram) }] := by
  rw [← hooksOf_copy]
  rfl

theorem settled_copyForm : Evaluation.settled (Sandbox.engine {}) 8 copyForm = copyForm := by
  refine Snapshot.ext ?_ rfl
  rw [Evaluation.settled_elements, show copyForm.elements.map _ = _ from hooksOf_copyForm (.int 7)]
  decide +kernel

theorem settled_editedForm : (Evaluation.settled (Sandbox.engine {}) 8 editedForm).elements =
    [{ origin with value := .int 9 }, { copied with value := .int 9 }] := by
  rw [Evaluation.settled_elements, show editedForm.elements.map _ = _ from hooksOf_copyForm (.int 9)]
  decide +kernel

theorem changed_editedForm : (Evaluation.run (Sandbox.engine {})
    (editedForm.elements.map (Sandbox.engine {}).hooksOf) 8 editedForm.elements).changed = ["b"] := by
  rw [show editedForm.elements.map _ = _ from hooksOf_copyForm (.int 9)]
  decide +kernel

/-- The user edits one value, and a hook copies it into another: both are told. -/
theorem changes_accounted_copy :
    let p := (Panel.ofSnapshot (Sandbox.engine {}) 8 none copyForm).panel
    ∃ u, p.perform (.setValue "a" (.int 9)) = .ok u ∧
      u.diff.values = [⟨"a", .int 7, .int 9⟩, ⟨"b", .int 7, .int 9⟩] ∧
      u.panel.stats.changed = ["b"] ∧
      (Evaluation.evaluate (Sandbox.engine {}) 8 {} editedForm).snapshot.valueOf? "a" = some (.int 9) ∧
      ∀ c ∈ u.diff.values, c.id ∈ ["a"] ∨ c.id ∈ u.panel.stats.changed := by
  intro p
  have hpublished : p.published = copyForm :=
    (Panel.ofSnapshot_published _ _ _ _).trans settled_copyForm
  have hvalid : p.Valid := Panel.ofSnapshot_valid _ _ _ _
  have hengine : p.engine = Sandbox.engine {} := rfl
  have hlimit : p.limit = 8 := rfl
  obtain ⟨hevaluate, hpanel⟩ := changes_accounted (Sandbox.engine {}) 8
  have haccounted : ∀ u, p.perform (.setValue "a" (.int 9)) = .ok u → ∀ c ∈ u.diff.values,
      c.id ∈ ["a"] ∨ c.id ∈ u.panel.stats.changed :=
    hpanel none copyForm [] (.setValue "a" (.int 9))
  clear_value p
  have hperform : p.perform (.setValue "a" (.int 9)) = .ok (p.publish editedForm) := by
    rw [Panel.perform, Panel.setValue, hpublished]
    rfl
  have hafter : (p.publish editedForm).panel.published =
      Evaluation.settled p.engine p.limit editedForm :=
    Panel.publish_published hvalid.sound
  rw [hengine, hlimit] at hafter
  have hstats : (p.publish editedForm).panel.stats.changed = ["b"] := by
    show (Evaluation.evaluate p.engine p.limit (p.registry.retain editedForm.elements)
      editedForm).changed = _
    rw [Evaluation.evaluate_changed (hvalid.sound.retain editedForm.elements), hengine, hlimit,
      changed_editedForm]
  have hkept : "a" ∉ (Evaluation.evaluate (Sandbox.engine {}) 8 {} editedForm).changed := by
    rw [Evaluation.evaluate_changed Registry.sound_empty, changed_editedForm]
    decide
  obtain ⟨-, -, -, -, -, hvalues, -⟩ := hevaluate {} editedForm
  refine ⟨p.publish editedForm, hperform, ?_, hstats, hvalues "a" hkept, haccounted _ hperform⟩
  have hdiff : (p.publish editedForm).diff =
      Diff.between p.published (p.publish editedForm).panel.published := rfl
  rw [hdiff, hafter, hpublished, Diff.between, Diff.common, settled_editedForm]
  decide +kernel

end LiveForm

import LiveForm.Form.Diff
import LiveForm.Proofs.Form.Frame
import LiveForm.Proofs.Json.Same

/-!
# What a difference tells of one element

A difference is a list of changes and lists of ids. Between snapshots with one list of ids it can be
read element by element: the elements are **paired in order** (`common_eq_zip`), the change that is found
for an id is the one of its pair, and an id is in a list exactly if its pair passes the test of this list
(`between_tells`). Nothing was added and nothing removed.
-/

namespace LiveForm

namespace Snapshot

theorem contains_iff_mem_ids {s : Snapshot} {id : String} : s.contains id = true ↔ id ∈ s.ids := by
  simp only [contains, ids, List.any_eq_true, beq_iff_eq, List.mem_map]

theorem get?_eq_none {s : Snapshot} {id : String} : s.get? id = none ↔ id ∉ s.ids := by
  simp [get?, ids]

theorem id_of_get? {s : Snapshot} {id : String} {e : Element} (h : s.get? id = some e) : e.id = id := by
  have hid := List.find?_some h
  exact eq_of_beq hid

/-- As ids are distinct, looking up the id of an element finds this element. -/
theorem get?_of_mem {s : Snapshot} {e : Element} (he : e ∈ s.elements) : s.get? e.id = some e :=
  s.distinct.find? he

end Snapshot

/-- A list of options says the same as itself. -/
theorem SelectOption.listAlike_refl (options : List SelectOption) :
    listAlike options options = true := by
  induction options with
  | nil => rfl
  | cons o options ih =>
    simp only [listAlike, allAlike, alike, beq_self_eq_true, Json.alike_refl, Bool.true_and]
    exact ih

theorem SelectOption.alike_symm {a b : SelectOption} (h : a.alike b = true) : b.alike a = true := by
  rw [alike, Bool.and_eq_true, beq_iff_eq] at h ⊢
  exact ⟨h.1.symm, Json.alike_symm h.2⟩

theorem SelectOption.listAlike_symm {as bs : List SelectOption} (h : listAlike as bs = true) :
    listAlike bs as = true := by
  induction as generalizing bs with
  | nil =>
    cases bs with
    | nil => rfl
    | cons b bs => cases h
  | cons a as ih =>
    cases bs with
    | nil => cases h
    | cons b bs =>
      rw [listAlike, allAlike, Bool.and_eq_true] at h ⊢
      exact ⟨alike_symm h.1, ih h.2⟩

theorem SelectOption.listAlike_comm (as bs : List SelectOption) : listAlike as bs = listAlike bs as :=
  Bool.eq_iff_iff.2 ⟨listAlike_symm, listAlike_symm⟩

namespace Diff

/-- **In order.** Snapshots with the same ids are compared element by element. -/
theorem common_eq_zip {before after : Snapshot} (hids : after.ids = before.ids) :
    common before after = before.elements.zip after.elements := by
  suffices h : ∀ olds news : List Element, news.map (·.id) = olds.map (·.id) →
      (∀ old ∈ olds, old ∈ before.elements) →
      news.filterMap (fun e => (before.get? e.id).map fun old => (old, e)) = olds.zip news from
    h before.elements after.elements hids fun _ h => h
  intro olds
  induction olds with
  | nil =>
    intro news hids _
    rw [List.map_eq_nil_iff.1 hids]
    rfl
  | cons old olds ih =>
    intro news hids hmem
    obtain ⟨new, rest, rfl, hid, hrest⟩ := List.map_eq_cons_iff.1 hids
    have hget : before.get? new.id = some old := by
      rw [hid]
      exact Snapshot.get?_of_mem (hmem old List.mem_cons_self)
    rw [List.filterMap_cons, hget, List.zip_cons_cons, ← ih rest hrest fun o ho =>
      hmem o (List.mem_cons_of_mem _ ho)]
    rfl

/-! ## One pair among others -/

section

variable {pairs : List (Element × Element)} {old new : Element}

/-- A pair is told from others by the id of its later element. -/
theorem eq_of_pair_id (hd : Distinct (pairs.map (·.2))) {p q : Element × Element} (hp : p ∈ pairs)
    (hq : q ∈ pairs) (hid : p.2.id = q.2.id) : p = q := by
  rw [Distinct, List.map_map] at hd
  exact List.inj_on_of_nodup_map hd hp hq hid

theorem idsWhere_contains (hd : Distinct (pairs.map (·.2))) (h : (old, new) ∈ pairs)
    (test : Element → Element → Bool) : (idsWhere pairs test).contains new.id = test old new := by
  rw [Bool.eq_iff_iff, List.contains_iff_mem, idsWhere, List.mem_map]
  constructor
  · rintro ⟨pair, hpair, hid⟩
    obtain ⟨hmem, htest⟩ := List.mem_filter.1 hpair
    obtain rfl := eq_of_pair_id hd hmem h hid
    exact htest
  · intro htest
    exact ⟨(old, new), List.mem_filter.2 ⟨h, htest⟩, rfl⟩

theorem valueChange?_id {change : ValueChange} (h : valueChange? old new = some change) :
    change.id = new.id := by
  rw [valueChange?] at h
  split at h
  · cases h
  · cases h
    rfl

theorem find?_valueChanges (hd : Distinct (pairs.map (·.2))) (h : (old, new) ∈ pairs) :
    (pairs.filterMap fun (old, new) => valueChange? old new).find? (·.id == new.id) =
      valueChange? old new := by
  generalize hchanges : (pairs.filterMap fun (old, new) => valueChange? old new) = changes
  have hmem {change : ValueChange} :
      change ∈ changes ↔ ∃ pair ∈ pairs, valueChange? pair.1 pair.2 = some change := by
    rw [← hchanges, List.mem_filterMap]
  -- a change that is found is the one of this pair
  have honly {change : ValueChange} (hc : change ∈ changes) (hid : change.id = new.id) :
      valueChange? old new = some change := by
    obtain ⟨pair, hpair, hchange⟩ := hmem.1 hc
    obtain rfl := eq_of_pair_id hd hpair h ((valueChange?_id hchange).symm.trans hid)
    exact hchange
  cases hfind : changes.find? (·.id == new.id) with
  | some change =>
    have hid := List.find?_some hfind
    exact (honly (List.mem_of_find?_eq_some hfind) (eq_of_beq hid)).symm
  | none =>
    cases hchange : valueChange? old new with
    | none => rfl
    | some change =>
      have hne := List.find?_eq_none.1 hfind change (hmem.2 ⟨_, h, hchange⟩)
      exact absurd (beq_iff_eq.2 (valueChange?_id hchange)) hne

end

/-! ## Between snapshots with the same ids -/

variable {before after : Snapshot}

theorem added_eq_nil (hids : after.ids = before.ids) : (between before after).added = [] := by
  simp only [between, List.filter_eq_nil_iff, Bool.not_eq_true, Bool.not_eq_false']
  intro id hid
  rw [hids] at hid
  exact Snapshot.contains_iff_mem_ids.2 hid

theorem removed_eq_nil (hids : after.ids = before.ids) : (between before after).removed = [] := by
  simp only [between, List.filter_eq_nil_iff, Bool.not_eq_true, Bool.not_eq_false']
  intro id hid
  rw [← hids] at hid
  exact Snapshot.contains_iff_mem_ids.2 hid

theorem distinct_zip (hids : after.ids = before.ids) :
    Distinct ((before.elements.zip after.elements).map (·.2)) := by
  have hlength : after.elements.length = before.elements.length := by
    simpa only [Snapshot.ids, List.length_map] using congrArg List.length hids
  have hsnd : (before.elements.zip after.elements).map (·.2) = after.elements :=
    List.map_snd_zip (Nat.le_of_eq hlength)
  rw [hsnd]
  exact before.distinct.of_ids hids

/-- A difference tells of an element that was `old` and is `new`. -/
structure Tells (d : Diff) (old new : Element) : Prop where
  values : d.values.find? (·.id == new.id) = valueChange? old new
  shown : d.shown.contains new.id = (!old.visible && new.visible)
  hidden : d.hidden.contains new.id = (old.visible && !new.visible)
  enabled : d.enabled.contains new.id = (old.disabled && !new.disabled)
  disabled : d.disabled.contains new.id = (!old.disabled && new.disabled)
  options : d.options.contains new.id =
    !SelectOption.listAlike old.effectiveOptions new.effectiveOptions

/-- **The difference** between two snapshots tells of each element, and of no other under its id. -/
theorem between_tells (hids : after.ids = before.ids) {old new : Element}
    (h : (old, new) ∈ before.elements.zip after.elements) :
    (between before after).Tells old new := by
  have hzip := distinct_zip hids
  rw [between, common_eq_zip hids]
  refine ⟨find?_valueChanges hzip h, ?_, ?_, ?_, ?_, ?_⟩ <;>
    simp only [idsWhere_contains hzip h]

/-! ## No difference -/

/-- Elements with the values they had before tell no change of a value. -/
theorem values_eq_nil {before after : Snapshot} (hids : after.ids = before.ids)
    (hvalues : after.elements.map (·.value) = before.elements.map (·.value)) :
    (between before after).values = [] := by
  simp only [between, common_eq_zip hids, List.filterMap_eq_nil_iff]
  rintro ⟨old, new⟩ hpair
  obtain ⟨place, hplace⟩ := List.mem_iff_getElem?.1 hpair
  obtain ⟨hold, hnew⟩ := List.getElem?_zip_eq_some.1 hplace
  have hvalue := congrArg (·[place]?) hvalues
  simp only [List.getElem?_map, hold, hnew, Option.map_some, Option.some.injEq] at hvalue
  simp only [valueChange?, hvalue, Json.same_refl, if_true]

/-- A snapshot does not differ from itself. -/
theorem between_self (s : Snapshot) : between s s = {} := by
  have hpairs : common s s = s.elements.map fun e => (e, e) := by
    rw [common_eq_zip rfl, List.zip_eq_zipWith, List.zipWith_self]
  have hnone (test : Element → Element → Bool) (h : ∀ e, test e e = false) :
      idsWhere (common s s) test = [] := by
    simp only [idsWhere, hpairs, List.map_eq_nil_iff, List.filter_eq_nil_iff, List.forall_mem_map, h,
      Bool.false_eq_true, not_false_eq_true, implies_true]
  have hvalues : ((common s s).filterMap fun (old, new) => valueChange? old new) = [] := by
    simp only [hpairs, List.filterMap_eq_nil_iff, List.forall_mem_map, valueChange?, Json.same_refl,
      if_true, implies_true]
  have hadded : (between s s).added = [] := added_eq_nil rfl
  have hremoved : (between s s).removed = [] := removed_eq_nil rfl
  simp only [between, Diff.mk.injEq] at hadded hremoved ⊢
  refine ⟨hvalues, hnone _ fun e => ?_, hnone _ fun e => ?_, hnone _ fun e => ?_, hnone _ fun e => ?_,
    hnone _ fun e => ?_, hadded, hremoved⟩
  · exact Bool.not_and_self _
  · exact Bool.and_not_self _
  · exact Bool.and_not_self _
  · exact Bool.not_and_self _
  · rw [SelectOption.listAlike_refl, Bool.not_true]

end Diff

end LiveForm

import LiveForm.Proofs.Form.Diff
import LiveForm.Proofs.Form.Values
import Mathlib.Data.List.Perm.Basic

/-!
# Edits, one by one and all at once

An edit puts a value in the range of the element of its id. Ids are distinct, so there is one such element, and
it stands at one place (`setValue?_eq_some`). An edit keeps the ids, the order and the frames of all elements.

A map of values is set by one edit for each of its ids. Edits of different ids do not meddle with each other
(`assignValue_comm`), and those of ids without an element change nothing (`assignEach_known`). So it comes to the same
to edit the ids that are there one by one, in whatever order (`edits_agree`).
-/

namespace LiveForm

namespace Snapshot

variable {s next : Snapshot} {id : String} {value : Json}

/-! ## What an edit keeps -/

theorem update_ids (s : Snapshot) {id : String} {f : Element → Element}
    (hf : ∀ e, e.id = id → (f e).id = id) : (s.update id f hf).ids = s.ids := ids_replaced s.elements hf

theorem assignValue_ids (s : Snapshot) (id : String) (value : Json) : (s.assignValue id value).ids = s.ids :=
  s.update_ids (f := (withValueOf · value)) fun _ he => he

theorem setValue?_eq (h : s.setValue? id value = some next) : next = s.assignValue id value := by
  rw [setValue?, Option.ite_none_right_eq_some] at h
  exact (Option.some.inj h.2).symm

theorem replace?_eq {e : Element} (h : s.replace? e = some next) : next = s.assignElement e := by
  rw [replace?, Option.ite_none_right_eq_some] at h
  exact (Option.some.inj h.2).symm

theorem setValue?_ids (h : s.setValue? id value = some next) : next.ids = s.ids := by
  obtain rfl := setValue?_eq h
  exact s.assignValue_ids id value

theorem replace?_ids {e : Element} (h : s.replace? e = some next) : next.ids = s.ids := by
  obtain rfl := replace?_eq h
  exact s.update_ids (f := fun _ => e) fun _ _ => rfl

/-- What an edit keeps, many edits keep. -/
theorem assignEach_keeps {α : Type} {f : Snapshot → α}
    (hf : ∀ s id value, f (s.assignValue id value) = f s) (s : Snapshot) (edits : List (String × Json)) :
    f (s.assignEach edits) = f s := by
  induction edits generalizing s with
  | nil => rfl
  | cons edit edits ih => exact (ih _).trans (hf s edit.1 edit.2)

theorem setValues_ids (s : Snapshot) (values : Values) : (s.setValues values).ids = s.ids :=
  assignEach_keeps assignValue_ids s values.members

theorem setInitial_ids (s : Snapshot) (initial : Values) : (s.setInitial initial).ids = s.ids :=
  s.setValues_ids initial

theorem withValueOf_frame (e : Element) (value : Json) : (withValueOf e value).frame = e.frame := rfl

theorem assignValue_frame (s : Snapshot) (id : String) (value : Json) :
    (s.assignValue id value).elements.map Element.frame = s.elements.map Element.frame := by
  rw [assignValue_elements, List.map_map]
  refine List.map_congr_left fun e _ => ?_
  rw [Function.comp_apply]
  split
  · exact withValueOf_frame e value
  · rfl

theorem setValues_frame (s : Snapshot) (values : Values) :
    (s.setValues values).elements.map Element.frame = s.elements.map Element.frame :=
  assignEach_keeps (f := fun s => s.elements.map Element.frame) assignValue_frame s values.members

theorem setValues_initial (s : Snapshot) (values : Values) : (s.setValues values).initial = s.initial :=
  assignEach_keeps (f := Snapshot.initial) (fun _ _ _ => rfl) s values.members

theorem setValue?_keeps (h : s.setValue? id value = some next) :
    next.elements.map Element.frame = s.elements.map Element.frame ∧ next.initial = s.initial := by
  obtain rfl := setValue?_eq h
  exact ⟨s.assignValue_frame id value, rfl⟩

/-! ## One edit -/

theorem setValue?_eq_none : s.setValue? id value = none ↔ id ∉ s.ids := by
  rw [setValue?, ← contains_iff_mem_ids]
  simp

theorem replace?_eq_none {e : Element} : s.replace? e = none ↔ e.id ∉ s.ids := by
  rw [replace?, ← contains_iff_mem_ids]
  simp

theorem setValue?_of_mem (h : id ∈ s.ids) (value : Json) :
    s.setValue? id value = some (s.assignValue id value) := by
  rw [setValue?, if_pos (contains_iff_mem_ids.2 h)]

/-- Updating the element of an id is updating the one at its place. -/
theorem update_eq_set {place : Nat} {e : Element} (he : s.elements[place]? = some e) (f : Element → Element)
    (hf : ∀ x, x.id = e.id → (f x).id = e.id) : (s.update e.id f hf).elements = s.elements.set place (f e) := by
  refine List.ext_getElem? fun other => ?_
  rw [show (s.update e.id f hf).elements = s.elements.map _ from rfl, List.getElem?_map]
  by_cases hplace : place = other
  · subst hplace
    rw [List.getElem?_set_self (List.getElem?_eq_some_iff.1 he).1, he, Option.map_some,
      if_pos (beq_self_eq_true _)]
  · rw [List.getElem?_set_ne hplace]
    cases hother : s.elements[other]? with
    | none => rfl
    | some e' =>
      have hid : (e'.id == e.id) = false := by
        refine beq_false_of_ne fun hid => hplace ?_
        have hfound := s.distinct.findIdx? hother
        rw [hid, s.distinct.findIdx? he] at hfound
        exact Option.some.inj hfound
      rw [Option.map_some, hid, if_neg Bool.false_ne_true]

/-- **An edit** finds the place of its id, and puts the value there, moved into range. -/
theorem setValue?_eq_some :
    s.setValue? id value = some next ↔ ∃ place e, s.position? id = some place ∧ s.elements[place]? = some e ∧
      next.elements = s.elements.set place (withValueOf e value) ∧ next.initial = s.initial := by
  constructor
  · intro h
    have hmem : id ∈ s.ids := by
      by_contra hnot
      rw [setValue?_eq_none.2 hnot] at h
      cases h
    obtain ⟨e, he, rfl⟩ := List.mem_map.1 hmem
    obtain ⟨place, hplace⟩ := List.mem_iff_getElem?.1 he
    obtain rfl := setValue?_eq h
    exact ⟨place, e, s.distinct.findIdx? hplace, hplace, update_eq_set hplace _ _, rfl⟩
  · rintro ⟨place, e, hposition, he, helements, hinitial⟩
    obtain ⟨hlt, hid, -⟩ := List.findIdx?_eq_some_iff_getElem.1 hposition
    obtain rfl : e.id = id := by
      rw [List.getElem?_eq_getElem hlt] at he
      rw [← Option.some.inj he]
      exact eq_of_beq hid
    rw [setValue?_of_mem (List.mem_map_of_mem (List.mem_of_getElem? he)), Option.some.injEq]
    exact Snapshot.ext ((update_eq_set he _ _).trans helements.symm) hinitial.symm

/-! ## Many edits -/

/-- Edits made one after the other, or `none` if one of them has no element. -/
def setEach? (s : Snapshot) (edits : List (String × Json)) : Option Snapshot :=
  edits.foldlM (fun s (id, v) => s.setValue? id v) s

theorem setEach?_cons (s : Snapshot) (id : String) (v : Json) (edits : List (String × Json)) :
    s.setEach? ((id, v) :: edits) = (s.setValue? id v).bind (·.setEach? edits) := rfl

/-- Edits that all have an element are made one after the other. -/
theorem setEach?_of_known {edits : List (String × Json)} (h : ∀ edit ∈ edits, edit.1 ∈ s.ids) :
    s.setEach? edits = some (s.assignEach edits) := by
  induction edits generalizing s with
  | nil => rfl
  | cons edit edits ih =>
    obtain ⟨id, v⟩ := edit
    obtain ⟨hfirst : id ∈ s.ids, hrest⟩ := List.forall_mem_cons.1 h
    rw [setEach?_cons, setValue?_of_mem hfirst, Option.bind_some, assignEach_cons]
    exact ih fun later hlater => (s.assignValue_ids id v).symm ▸ hrest later hlater

/-- **Edits of different ids** may change places. -/
theorem assignValue_comm (s : Snapshot) {id id' : String} (hne : id ≠ id') (v v' : Json) :
    (s.assignValue id v).assignValue id' v' = (s.assignValue id' v').assignValue id v := by
  refine Snapshot.ext ?_ rfl
  simp only [assignValue_elements, List.map_map]
  refine List.map_congr_left fun e _ => ?_
  simp only [Function.comp_apply, beq_iff_eq]
  by_cases hid : e.id = id
  · have hid' : e.id ≠ id' := fun h => hne (hid.symm.trans h)
    rw [if_pos hid, if_neg hid', if_pos hid]
    exact if_neg hid'
  · rw [if_neg hid]
    by_cases hid' : e.id = id'
    · rw [if_pos hid']
      exact (if_neg hid).symm
    · rw [if_neg hid', if_neg hid]

/-- Edits of different ids are made in whatever order. -/
theorem assignEach_perm (s : Snapshot) {edits edits' : List (String × Json)} (h : edits.Perm edits')
    (hnodup : (edits.map (·.1)).Nodup) : s.assignEach edits = s.assignEach edits' := by
  rw [assignEach, assignEach]
  refine h.foldl_eq' (fun v hv w hw s => ?_) s
  by_cases hid : v.1 = w.1
  · rw [List.inj_on_of_nodup_map hnodup hv hw hid]
  · exact s.assignValue_comm hid v.2 w.2

theorem assignValue_of_not_mem (h : id ∉ s.ids) (value : Json) : s.assignValue id value = s := by
  refine Snapshot.ext ?_ rfl
  have hmap : (s.elements.map fun e => if e.id == id then withValueOf e value else e) =
      s.elements.map fun e => e := by
    refine List.map_congr_left fun e he => if_neg fun hid => h ?_
    exact List.mem_map.2 ⟨e, he, eq_of_beq hid⟩
  exact hmap.trans (List.map_id' _)

/-- Edits whose ids have no element make no difference. -/
theorem assignEach_known (s : Snapshot) (edits : List (String × Json)) :
    s.assignEach (edits.filter fun edit => s.contains edit.1) = s.assignEach edits := by
  suffices h : ∀ t : Snapshot, t.ids = s.ids →
      t.assignEach (edits.filter fun edit => s.contains edit.1) = t.assignEach edits from h s rfl
  induction edits with
  | nil => exact fun _ _ => rfl
  | cons first edits ih =>
    obtain ⟨id, v⟩ := first
    intro t ht
    have hids : (t.assignValue id v).ids = s.ids := (t.assignValue_ids id v).trans ht
    rw [List.filter_cons, assignEach_cons]
    cases hknown : s.contains id with
    | true => exact ih _ hids
    | false =>
      have hunknown : id ∉ t.ids := by
        rw [ht, ← contains_iff_mem_ids, hknown]
        exact Bool.false_ne_true
      rw [assignValue_of_not_mem hunknown]
      exact ih t ht

theorem mem_unknownIds {values : Values} : id ∈ s.unknownIds values ↔ id ∈ values.ids ∧ id ∉ s.ids := by
  rw [unknownIds, List.mem_filter, Bool.not_eq_true', ← Bool.not_eq_true, contains_iff_mem_ids]

/-- Elements set to a map of values, field by field. -/
theorem setValues_elements (s : Snapshot) (values : Values) :
    (s.setValues values).elements =
      s.elements.map fun e => { e with value := (values.lookup e.id).elim e.value e.clamp } := by
  rw [setValues_eq_map]
  refine List.map_congr_left fun e _ => ?_
  cases hlookup : values.lookup e.id with
  | none => rw [Values.assign_of_lookup_none hlookup, Option.elim_none]
  | some v => rw [Values.assign_of_lookup hlookup, Option.elim_some, withValueOf]

/-- **Editing all at once is editing one by one.** An edit puts a value, moved into range, at the place of
its id. Setting a map of values is making the edits of its ids that are there, in any order;
the ids that are not there are told, each once and in their order. Elements without an edit stay as they are, the
others change in their values alone, and the initial values stay. Loading a map as the initial values gives the same
elements and tells the same ids, and the map takes the place of the initial values. -/
theorem edits_agree (s : Snapshot) (values : Values) :
    (∀ id value next, s.setValue? id value = some next ↔ ∃ place e, s.position? id = some place ∧
      s.elements[place]? = some e ∧ next.elements = s.elements.set place (withValueOf e value) ∧
      next.initial = s.initial) ∧
    (∀ edits : List (String × Json), edits.Perm (values.members.filter fun v => s.contains v.1) →
      s.setEach? edits = some (s.setValues values)) ∧
    ((∀ id, id ∈ s.unknownIds values ↔ id ∈ values.ids ∧ id ∉ s.ids) ∧
      (s.unknownIds values).Pairwise (· < ·)) ∧
    (s.setValues values).elements =
      s.elements.map (fun e => { e with value := (values.lookup e.id).elim e.value e.clamp }) ∧
    (s.setValues values).initial = s.initial ∧
    (s.setInitial values).elements = (s.setValues values).elements ∧
    (s.setInitial values).initial = values ∧
    (s.setInitial values).unknownIds values = s.unknownIds values := by
  refine ⟨fun _ _ _ => setValue?_eq_some, fun edits hperm => ?_,
    ⟨fun _ => mem_unknownIds, values.ordered.keys.filter _⟩, s.setValues_elements values, s.setValues_initial values, rfl, rfl, ?_⟩
  · have hnodup : (edits.map (·.1)).Nodup :=
      (hperm.map (·.1)).nodup_iff.2 (values.ordered.nodup_keys.sublist (List.filter_sublist.map _))
    have hknown : ∀ edit ∈ edits, edit.1 ∈ s.ids := fun edit hedit =>
      contains_iff_mem_ids.1 (List.mem_filter.1 (hperm.mem_iff.1 hedit)).2
    rw [setEach?_of_known hknown, s.assignEach_perm hperm hnodup, s.assignEach_known]
    rfl
  · refine List.filter_congr fun id _ => ?_
    rw [Bool.eq_iff_iff, Bool.not_eq_true', Bool.not_eq_true', ← Bool.not_eq_true, ← Bool.not_eq_true,
      contains_iff_mem_ids, contains_iff_mem_ids, setInitial_ids]

/-- A slider and a text, set to a map with an id that is not there: the two edits in the other order. -/
theorem edits_agree_reversed :
    let s : Snapshot :=
      ⟨[{ id := "a", type := .slider, max := some 5.0 }, { id := "b", type := .text }], ∅, by decide⟩
    let values : Values := .ofList [("a", .int 9), ("b", .str "x"), ("c", .null)]
    let edited : List Element := [{ id := "a", type := .slider, max := some 5.0, value := .int 5 },
      { id := "b", type := .text, value := .str "x" }]
    s.setEach? [("b", .str "x"), ("a", .int 9)] = some (s.setValues values) ∧
      s.unknownIds values = ["c"] ∧ s.setInitial values = ⟨edited, values, by decide⟩ := by
  intro s values edited
  obtain ⟨-, hedits, -⟩ := edits_agree s values
  exact ⟨hedits _ (by decide), by decide, by decide⟩

end Snapshot

end LiveForm

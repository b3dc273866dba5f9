import LiveForm.Proofs.Form.Diff

/-!
# Differences are exact

The elements of two snapshots are matched by their ids, in whatever order either lists them. A difference is
found from the matched pairs (`told`), and these from the ids that both snapshots have (`common_eq_shared`). So
what a list of the difference holds can be said with `Snapshot.get?` alone, and taken in the other direction
every pair is turned around: the difference is turned around with it (`told_swap`), in the order of the other
snapshot (`shared_perm`).
-/

namespace LiveForm

/-- A change taken back. -/
def ValueChange.swap (c : ValueChange) : ValueChange := ⟨c.id, c.after, c.before⟩

namespace Diff

/-! ## What a difference says -/

/-- A difference taken back. -/
def swap (d : Diff) : Diff where
  values := d.values.map ValueChange.swap
  shown := d.hidden
  hidden := d.shown
  enabled := d.disabled
  disabled := d.enabled
  options := d.options
  added := d.removed
  removed := d.added

/-- The ids in each list of a difference. -/
def idLists (d : Diff) : List (List String) :=
  [d.values.map (·.id), d.shown, d.hidden, d.enabled, d.disabled, d.options, d.added, d.removed]

/-- Two differences say the same, each list in an order of its own. -/
structure Perm (d d' : Diff) : Prop where
  values : d.values.Perm d'.values
  shown : d.shown.Perm d'.shown
  hidden : d.hidden.Perm d'.hidden
  enabled : d.enabled.Perm d'.enabled
  disabled : d.disabled.Perm d'.disabled
  options : d.options.Perm d'.options
  added : d.added.Perm d'.added
  removed : d.removed.Perm d'.removed

/-- An id is in both snapshots, and its two elements are in a relation. -/
def Both (before after : Snapshot) (related : Element → Element → Prop) (id : String) : Prop :=
  ∃ old new, before.get? id = some old ∧ after.get? id = some new ∧ related old new

/-- A difference says what has changed, and nothing else. -/
structure Exact (before after : Snapshot) (d : Diff) : Prop where
  values : ∀ change, change ∈ d.values ↔ Both before after (fun old new =>
    old.value.same new.value = false ∧ change.before = old.value ∧ change.after = new.value) change.id
  shown : ∀ id, id ∈ d.shown ↔
    Both before after (fun old new => old.visible = false ∧ new.visible = true) id
  hidden : ∀ id, id ∈ d.hidden ↔
    Both before after (fun old new => old.visible = true ∧ new.visible = false) id
  enabled : ∀ id, id ∈ d.enabled ↔
    Both before after (fun old new => old.disabled = true ∧ new.disabled = false) id
  disabled : ∀ id, id ∈ d.disabled ↔
    Both before after (fun old new => old.disabled = false ∧ new.disabled = true) id
  options : ∀ id, id ∈ d.options ↔ Both before after (fun old new =>
    SelectOption.listAlike old.effectiveOptions new.effectiveOptions = false) id
  added : ∀ id, id ∈ d.added ↔ id ∈ after.ids ∧ id ∉ before.ids
  removed : ∀ id, id ∈ d.removed ↔ id ∈ before.ids ∧ id ∉ after.ids

/-- Two elements between which a difference has nothing to say. -/
structure Agree (old new : Element) : Prop where
  value : old.value.same new.value = true
  visible : old.visible = new.visible
  disabled : old.disabled = new.disabled
  options : SelectOption.listAlike old.effectiveOptions new.effectiveOptions = true

/-- The ids that two snapshots have in common, in the order of the later. -/
def shared (before after : Snapshot) : List String := after.ids.filter before.contains

/-- The element of an id in two snapshots. -/
def pair? (before after : Snapshot) (id : String) : Option (Element × Element) :=
  (before.get? id).bind fun old => (after.get? id).map fun new => (old, new)

/-- What pairs of elements tell. -/
def told (pairs : List (Element × Element)) : Diff where
  values := pairs.filterMap fun (old, new) => valueChange? old new
  shown := idsWhere pairs fun old new => !old.visible && new.visible
  hidden := idsWhere pairs fun old new => old.visible && !new.visible
  enabled := idsWhere pairs fun old new => old.disabled && !new.disabled
  disabled := idsWhere pairs fun old new => !old.disabled && new.disabled
  options := idsWhere pairs fun old new => !SelectOption.listAlike old.effectiveOptions new.effectiveOptions

variable {before after : Snapshot} {pairs pairs' : List (Element × Element)}

theorem between_eq_told (before after : Snapshot) :
    between before after =
      { told (common before after) with
        added := after.ids.filter fun id => !before.contains id
        removed := before.ids.filter fun id => !after.contains id } := rfl

/-! ## Pairs -/

theorem pair?_eq_some {id : String} {old new : Element} :
    pair? before after id = some (old, new) ↔ before.get? id = some old ∧ after.get? id = some new := by
  simp only [pair?, Option.bind_eq_some_iff, Option.map_eq_some_iff, Prod.mk.injEq]
  constructor
  · rintro ⟨old, hold, new, hnew, rfl, rfl⟩
    exact ⟨hold, hnew⟩
  · rintro ⟨hold, hnew⟩
    exact ⟨old, hold, new, hnew, rfl, rfl⟩

theorem pair?_swap (id : String) : pair? after before id = (pair? before after id).map Prod.swap := by
  rw [pair?, pair?]
  cases before.get? id <;> cases after.get? id <;> rfl

/-- **Pairs are found by the ids that are shared.** -/
theorem common_eq_shared :
    common before after = (shared before after).filterMap (pair? before after) := by
  rw [common, shared, Snapshot.ids, List.filter_map, List.filterMap_map, List.filterMap_filter]
  refine List.filterMap_congr fun e he => ?_
  simp only [Function.comp_apply]
  rw [pair?, Snapshot.get?_of_mem he]
  by_cases hmem : before.contains e.id
  · rw [if_pos hmem]
    cases before.get? e.id <;> rfl
  · rw [if_neg hmem, Snapshot.get?_eq_none.2 fun h => hmem (Snapshot.contains_iff_mem_ids.2 h)]
    rfl

theorem mem_shared {id : String} : id ∈ shared before after ↔ id ∈ before.ids ∧ id ∈ after.ids := by
  rw [shared, List.mem_filter, Snapshot.contains_iff_mem_ids, and_comm]

theorem nodup_shared : (shared before after).Nodup := after.distinct.filter _

theorem shared_perm : (shared after before).Perm (shared before after) :=
  (List.perm_ext_iff_of_nodup nodup_shared nodup_shared).2 fun _ => by
    rw [mem_shared, mem_shared, and_comm]

theorem mem_common {old new : Element} :
    (old, new) ∈ common before after ↔ ∃ id, before.get? id = some old ∧ after.get? id = some new := by
  rw [common_eq_shared, List.mem_filterMap]
  simp only [pair?_eq_some]
  constructor
  · rintro ⟨id, -, hget⟩
    exact ⟨id, hget⟩
  · rintro ⟨id, hold, hnew⟩
    have hmem {s : Snapshot} {e : Element} (h : s.get? id = some e) : id ∈ s.ids := by
      by_contra hnot
      rw [Snapshot.get?_eq_none.2 hnot] at h
      cases h
    exact ⟨id, mem_shared.2 ⟨hmem hold, hmem hnew⟩, hold, hnew⟩

/-- The two elements of a pair have one id. -/
theorem id_of_common {pair : Element × Element} (h : pair ∈ common before after) : pair.1.id = pair.2.id := by
  obtain ⟨id, hold, hnew⟩ := mem_common.1 h
  rw [Snapshot.id_of_get? hold, Snapshot.id_of_get? hnew]

theorem nodup_common_ids : ((common before after).map fun pair => pair.2.id).Nodup := by
  rw [List.Nodup, List.pairwise_map, common, List.pairwise_filterMap]
  refine (List.pairwise_map.1 after.distinct).imp fun {e e'} hne pair hpair pair' hpair' => ?_
  obtain ⟨old, -, rfl⟩ := Option.map_eq_some_iff.1 hpair
  obtain ⟨old', -, rfl⟩ := Option.map_eq_some_iff.1 hpair'
  exact hne

/-! ## Ids that pass a test -/

theorem mem_idsWhere {test : Element → Element → Bool} {id : String} :
    id ∈ idsWhere (common before after) test ↔
      Both before after (fun old new => test old new = true) id := by
  simp only [idsWhere, List.mem_map, List.mem_filter, Prod.exists]
  constructor
  · rintro ⟨old, new, ⟨hmem, htest⟩, rfl⟩
    obtain ⟨id, hold, hnew⟩ := mem_common.1 hmem
    rw [Snapshot.id_of_get? hnew]
    exact ⟨old, new, hold, hnew, htest⟩
  · rintro ⟨old, new, hold, hnew, htest⟩
    exact ⟨old, new, ⟨mem_common.2 ⟨id, hold, hnew⟩, htest⟩, Snapshot.id_of_get? hnew⟩

theorem nodup_idsWhere (test : Element → Element → Bool) :
    (idsWhere (common before after) test).Nodup :=
  nodup_common_ids.sublist (List.filter_sublist.map _)

/-- The values that have changed are those of the elements whose values are not the same. -/
theorem ids_of_changes (pairs : List (Element × Element)) :
    (told pairs).values.map (·.id) = idsWhere pairs fun old new => !old.value.same new.value := by
  induction pairs with
  | nil => rfl
  | cons pair pairs ih =>
    obtain ⟨old, new⟩ := pair
    simp only [told, idsWhere] at ih ⊢
    cases hsame : old.value.same new.value with
    | false =>
      have hchange : valueChange? old new = some ⟨new.id, old.value, new.value⟩ := by
        rw [valueChange?, hsame]
        rfl
      simp [hchange, hsame, ih]
    | true =>
      have hchange : valueChange? old new = none := by
        rw [valueChange?, hsame]
        rfl
      simp [hchange, hsame, ih]

/-! ## Exactness -/

theorem valueChange?_eq_some {old new : Element} {change : ValueChange} :
    valueChange? old new = some change ↔
      old.value.same new.value = false ∧ change = ⟨new.id, old.value, new.value⟩ := by
  rw [valueChange?]
  cases old.value.same new.value <;> simp [eq_comm]

theorem mem_values (change : ValueChange) :
    change ∈ (between before after).values ↔ Both before after (fun old new =>
      old.value.same new.value = false ∧ change.before = old.value ∧ change.after = new.value) change.id := by
  simp only [between, List.mem_filterMap, Prod.exists, mem_common, valueChange?_eq_some]
  constructor
  · rintro ⟨old, new, ⟨id, hold, hnew⟩, hsame, rfl⟩
    obtain rfl := Snapshot.id_of_get? hnew
    exact ⟨old, new, hold, hnew, hsame, rfl, rfl⟩
  · rintro ⟨old, new, hold, hnew, hsame, hbefore, hafter⟩
    refine ⟨old, new, ⟨change.id, hold, hnew⟩, hsame, ?_⟩
    rw [← hbefore, ← hafter, Snapshot.id_of_get? hnew]

/-- **A difference says what has changed**, under the ids that both snapshots have. -/
theorem between_exact : Exact before after (between before after) where
  values := mem_values
  shown _ := by simp only [between, mem_idsWhere, Bool.and_eq_true, Bool.not_eq_true']
  hidden _ := by simp only [between, mem_idsWhere, Bool.and_eq_true, Bool.not_eq_true']
  enabled _ := by simp only [between, mem_idsWhere, Bool.and_eq_true, Bool.not_eq_true']
  disabled _ := by simp only [between, mem_idsWhere, Bool.and_eq_true, Bool.not_eq_true']
  options _ := by simp only [between, mem_idsWhere, Bool.not_eq_true']
  added id := by
    rw [between, List.mem_filter, Bool.not_eq_true', ← Bool.not_eq_true, Snapshot.contains_iff_mem_ids]
  removed id := by
    rw [between, List.mem_filter, Bool.not_eq_true', ← Bool.not_eq_true, Snapshot.contains_iff_mem_ids]

theorem between_nodup : ∀ ids ∈ (between before after).idLists, ids.Nodup := by
  have hvalues : ((between before after).values.map (·.id)).Nodup := by
    rw [between_eq_told, ids_of_changes]
    exact nodup_idsWhere _
  simp only [idLists, List.forall_mem_cons, between] at hvalues ⊢
  exact ⟨hvalues, nodup_idsWhere _, nodup_idsWhere _, nodup_idsWhere _, nodup_idsWhere _,
    nodup_idsWhere _, after.distinct.filter _, before.distinct.filter _, List.forall_mem_nil _⟩

theorem isEmpty_iff (d : Diff) :
    d.isEmpty = true ↔ d.values = [] ∧ d.shown = [] ∧ d.hidden = [] ∧ d.enabled = [] ∧ d.disabled = [] ∧
      d.options = [] ∧ d.added = [] ∧ d.removed = [] := by
  simp only [isEmpty, Bool.and_eq_true, List.isEmpty_iff, and_assoc]

/-- A flag has changed when it was turned on or off. -/
theorem flag_eq_iff {a b : Bool} : a = b ↔ ¬(a = false ∧ b = true) ∧ ¬(a = true ∧ b = false) := by
  cases a <;> cases b <;> decide

/-- The two elements of an id agree, if nothing is said of it. -/
theorem Exact.agree {d : Diff} (h : Exact before after d) (hempty : d.isEmpty = true) {id : String}
    {old new : Element} (hold : before.get? id = some old) (hnew : after.get? id = some new) :
    Agree old new := by
  obtain ⟨hvalues, hshown, hhidden, henabled, hdisabled, hoptions, -, -⟩ := d.isEmpty_iff.1 hempty
  have hnot {ids : List String} {related : Element → Element → Prop} (hnil : ids = [])
      (hids : ∀ id, id ∈ ids ↔ Both before after related id) : ¬related old new := by
    intro hrelated
    have hmem := (hids id).2 ⟨old, new, hold, hnew, hrelated⟩
    rw [hnil] at hmem
    cases hmem
  constructor
  · by_contra hne
    have hmem := (h.values ⟨id, old.value, new.value⟩).2
      ⟨old, new, hold, hnew, Bool.eq_false_iff.2 hne, rfl, rfl⟩
    rw [hvalues] at hmem
    cases hmem
  · exact flag_eq_iff.2 ⟨hnot hshown h.shown, hnot hhidden h.hidden⟩
  · exact flag_eq_iff.2 ⟨hnot hdisabled h.disabled, hnot henabled h.enabled⟩
  · exact Bool.eq_true_of_not_eq_false (hnot hoptions h.options)

/-- The two snapshots have the same ids, if nothing was added or removed. -/
theorem Exact.ids {d : Diff} (h : Exact before after d) (hempty : d.isEmpty = true) (id : String) :
    id ∈ before.ids ↔ id ∈ after.ids := by
  obtain ⟨-, -, -, -, -, -, hadded, hremoved⟩ := d.isEmpty_iff.1 hempty
  constructor
  · intro hid
    by_contra hnot
    have hmem := (h.removed id).2 ⟨hid, hnot⟩
    rw [hremoved] at hmem
    cases hmem
  · intro hid
    by_contra hnot
    have hmem := (h.added id).2 ⟨hid, hnot⟩
    rw [hadded] at hmem
    cases hmem

/-- Nothing is said of snapshots that agree. -/
theorem Exact.isEmpty {d : Diff} (h : Exact before after d) (hids : ∀ id, id ∈ before.ids ↔ id ∈ after.ids)
    (hagree : ∀ id old new, before.get? id = some old → after.get? id = some new → Agree old new) :
    d.isEmpty = true := by
  have hnil {ids : List String} {related : Element → Element → Prop}
      (hmem : ∀ id, id ∈ ids ↔ Both before after related id)
      (hnot : ∀ old new, Agree old new → ¬related old new) : ids = [] := by
    refine List.eq_nil_iff_forall_not_mem.2 fun id hid => ?_
    obtain ⟨old, new, hold, hnew, hrelated⟩ := (hmem id).1 hid
    exact hnot old new (hagree id old new hold hnew) hrelated
  have hvalues : d.values = [] := by
    refine List.eq_nil_iff_forall_not_mem.2 fun change hchange => ?_
    obtain ⟨old, new, hold, hnew, hsame, -⟩ := (h.values change).1 hchange
    rw [(hagree _ old new hold hnew).value] at hsame
    cases hsame
  refine d.isEmpty_iff.2 ⟨hvalues, hnil h.shown fun _ _ hagree => (flag_eq_iff.1 hagree.visible).1,
    hnil h.hidden fun _ _ hagree => (flag_eq_iff.1 hagree.visible).2,
    hnil h.enabled fun _ _ hagree => (flag_eq_iff.1 hagree.disabled).2,
    hnil h.disabled fun _ _ hagree => (flag_eq_iff.1 hagree.disabled).1,
    hnil h.options fun _ _ hagree => (Bool.not_eq_false _).mpr hagree.options, ?_, ?_⟩
  · refine List.eq_nil_iff_forall_not_mem.2 fun id hid => ?_
    obtain ⟨hafter, hbefore⟩ := (h.added id).1 hid
    exact hbefore ((hids id).2 hafter)
  · refine List.eq_nil_iff_forall_not_mem.2 fun id hid => ?_
    obtain ⟨hbefore, hafter⟩ := (h.removed id).1 hid
    exact hafter ((hids id).1 hbefore)

/-! ## The other way round -/

theorem valueChange?_swap {old new : Element} (hid : old.id = new.id) :
    valueChange? new old = (valueChange? old new).map ValueChange.swap := by
  have hsame : new.value.same old.value = old.value.same new.value :=
    Bool.eq_iff_iff.2 ⟨Json.same_symm, Json.same_symm⟩
  rw [valueChange?, valueChange?, hsame, hid]
  split <;> rfl

theorem idsWhere_swap (hid : ∀ pair ∈ pairs, pair.1.id = pair.2.id) (test : Element → Element → Bool) :
    idsWhere (pairs.map Prod.swap) test = idsWhere pairs fun old new => test new old := by
  rw [idsWhere, idsWhere, List.filter_map, List.map_map]
  exact List.map_congr_left fun pair hpair => hid pair (List.mem_of_mem_filter hpair)

/-- **Pairs that are turned around tell it the other way round.** -/
theorem told_swap (hid : ∀ pair ∈ pairs, pair.1.id = pair.2.id) :
    told (pairs.map Prod.swap) = (told pairs).swap := by
  have hvalues : ((pairs.map Prod.swap).filterMap fun (old, new) => valueChange? old new) =
      (pairs.filterMap fun (old, new) => valueChange? old new).map ValueChange.swap := by
    rw [List.filterMap_map, List.map_filterMap]
    exact List.filterMap_congr fun pair hpair => valueChange?_swap (hid pair hpair)
  simp only [told, swap, hvalues, idsWhere_swap hid, SelectOption.listAlike_comm, Bool.and_comm]

theorem idsWhere_perm (h : pairs.Perm pairs') (test : Element → Element → Bool) :
    (idsWhere pairs test).Perm (idsWhere pairs' test) := (h.filter _).map _

theorem told_perm (h : pairs.Perm pairs') : (told pairs).Perm (told pairs') := by
  refine ⟨h.filterMap _, ?_, ?_, ?_, ?_, ?_, .refl _, .refl _⟩ <;> simp only [told, idsWhere_perm h]

/-- The pairs of two snapshots are found in the other direction, in the order of the other snapshot. -/
theorem common_swap :
    common after before = ((shared after before).filterMap (pair? before after)).map Prod.swap := by
  rw [common_eq_shared, List.map_filterMap]
  exact List.filterMap_congr fun id _ => pair?_swap id

theorem common_swap_perm : (common after before).Perm ((common before after).map Prod.swap) := by
  rw [common_swap, common_eq_shared]
  exact (shared_perm.filterMap _).map _

/-- **Antisymmetry**, each list in the order of its later snapshot. -/
theorem between_swap_perm :
    (between after before).Perm (between before after).swap := by
  have htold : (told (common after before)).Perm (told (common before after)).swap := by
    rw [← told_swap fun _ => id_of_common]
    exact told_perm common_swap_perm
  exact { htold with added := .refl _, removed := .refl _ }

/-- What two snapshots have in common is told in one order, if they list it in one order. -/
theorem between_swap_of_shared
    (h : shared after before = shared before after) : between after before = (between before after).swap := by
  have hcommon : common after before = (common before after).map Prod.swap := by
    rw [common_swap, h, common_eq_shared]
  rw [between_eq_told, between_eq_told before after, hcommon, told_swap fun _ => id_of_common]
  rfl

/-- **Differences are exact and antisymmetric.** What a difference says of two snapshots is what has changed under
the ids that both have, and which ids only one has, each once; so it is empty just if the snapshots have the same
ids and agree under each. In the other direction the difference is taken back, in the order of the other snapshot,
and exactly so if both list the ids that they share in one order. -/
theorem between_exact_antisymmetric (before after : Snapshot) :
    Exact before after (between before after) ∧
      (∀ ids ∈ (between before after).idLists, ids.Nodup) ∧
      ((between before after).isEmpty = true ↔ (∀ id, id ∈ before.ids ↔ id ∈ after.ids) ∧
        ∀ id old new, before.get? id = some old → after.get? id = some new → Agree old new) ∧
      (between after before).Perm (between before after).swap ∧
      (shared after before = shared before after → between after before = (between before after).swap) := by
  have hexact : Exact before after (between before after) := between_exact
  refine ⟨hexact, between_nodup, ⟨fun hempty => ⟨hexact.ids hempty, fun _ _ _ => hexact.agree hempty⟩, ?_⟩,
    between_swap_perm, between_swap_of_shared⟩
  rintro ⟨hids, hagree⟩
  exact hexact.isEmpty hids hagree

/-- Two snapshots that list the ids that they share in different orders. -/
theorem between_exact_antisymmetric_of_reordered :
    let before : Snapshot := ⟨[{ id := "a", type := .text, value := .int 1 },
      { id := "b", type := .text, value := .int 1 }], ∅, by decide⟩
    let after : Snapshot := ⟨[{ id := "b", type := .text, value := .int 2 }, { id := "c", type := .text },
      { id := "a", type := .text, value := .int 2, visible := false }], ∅, by decide⟩
    Exact before after (between before after) ∧ (between after before).Perm (between before after).swap ∧
      between after before ≠ (between before after).swap := by
  intro before after
  obtain ⟨hexact, -, -, hperm, -⟩ := between_exact_antisymmetric before after
  exact ⟨hexact, hperm, by decide⟩

end Diff

end LiveForm

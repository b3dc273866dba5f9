import Mathlib.Data.List.Induction
import Mathlib.Data.List.Perm.Subperm
import LiveForm.Json.Members

/-!
# What is under a key

A list of pairs that is put in order has under each key what the last pair of this key has (`lookup_ofList`). Where
members are in order, they are the members that are looked up (`Ordered.lookup_of_mem`), and keys that are as many
as those of another list and among them are all of them (`Ordered.keys_eq`).
-/

namespace LiveForm.Json.Members

variable {ms ns : Members} {key : String} {value : Json}

/-! ## Pairs put in order -/

theorem insertMember_ne_nil (ms : Members) (key : String) (value : Json) : insertMember key value ms ≠ [] := by
  cases ms with
  | nil => exact List.cons_ne_nil _ _
  | cons first rest =>
    rw [insertMember]
    split
    · exact List.cons_ne_nil _ _
    · split
      · exact List.cons_ne_nil _ _
      · exact List.cons_ne_nil _ _

theorem ofList_concat (pairs : List (String × Json)) (pair : String × Json) :
    ofList (pairs ++ [pair]) = insertMember pair.1 pair.2 (ofList pairs) := by
  rw [ofList_eq_foldl, List.foldl_append, ← ofList_eq_foldl]
  rfl

theorem ofList_eq_nil {pairs : List (String × Json)} : ofList pairs = [] ↔ pairs = [] := by
  induction pairs using List.reverseRecOn with
  | nil => exact iff_of_true rfl rfl
  | append_singleton pairs pair =>
    rw [ofList_concat]
    exact iff_of_false (insertMember_ne_nil _ _ _) (List.concat_ne_nil _ _)

theorem mem_ofList {pairs : List (String × Json)} {m : String × Json} (h : m ∈ ofList pairs) : m ∈ pairs := by
  induction pairs using List.reverseRecOn with
  | nil => cases h
  | append_singleton pairs pair ih =>
    rw [ofList_concat] at h
    rcases mem_insertMember h with rfl | h
    · exact List.mem_append_right _ List.mem_cons_self
    · exact List.mem_append_left _ (ih h)

/-- What an insertion puts under one key, and what it leaves under the others. -/
theorem lookup_insertMember (ms : Members) (key : String) (value : Json) (other : String) :
    (insertMember key value ms).lookup other = if other == key then some value else ms.lookup other := by
  induction ms with
  | nil =>
    rw [insertMember, List.lookup_cons, List.lookup_nil]
    cases other == key <;> rfl
  | cons first rest ih =>
    obtain ⟨k, v⟩ := first
    rw [insertMember]
    split
    · -- in front of all others
      rw [List.lookup_cons]
      cases other == key <;> rfl
    · split
      · next hk =>
        -- in the place of the old value
        subst hk
        rw [List.lookup_cons, List.lookup_cons]
        cases other == key <;> rfl
      · next hk =>
        rw [List.lookup_cons, List.lookup_cons, ih]
        cases hother : other == k with
        | false => rfl
        | true =>
          obtain rfl := eq_of_beq hother
          have hkey : (other == key) = false := beq_false_of_ne fun heq => hk heq.symm
          rw [hkey]
          rfl

/-- **The later counts**: under a key is the value of the last pair that has it. -/
theorem lookup_ofList (pairs : List (String × Json)) (key : String) :
    (ofList pairs).lookup key = pairs.reverse.lookup key := by
  induction pairs using List.reverseRecOn with
  | nil => rfl
  | append_singleton pairs pair ih =>
    rw [ofList_concat, lookup_insertMember, List.reverse_append, List.reverse_singleton, List.singleton_append,
      List.lookup_cons, ih]
    cases key == pair.1 <;> rfl

/-- A member behind all others is put at the end. -/
theorem insertMember_of_last (h : ∀ m ∈ ms, m.1 < key) (value : Json) :
    insertMember key value ms = ms ++ [(key, value)] := by
  induction ms with
  | nil => rfl
  | cons m ms ih =>
    have hlt : m.1 < key := h m List.mem_cons_self
    have hnot : ¬key < m.1 := fun h => String.lt_irrefl key (String.lt_trans h hlt)
    have hne : key ≠ m.1 := fun h => String.lt_irrefl key (h ▸ hlt)
    rw [insertMember, if_neg hnot, if_neg hne, ih fun n hn => h n (List.mem_cons_of_mem m hn)]
    rfl

/-! ## Members in order -/

/-- What is in order stays as it is. -/
theorem Ordered.ofList_eq (h : ms.Ordered) : ofList ms = ms := by
  induction ms using List.reverseRecOn with
  | nil => rfl
  | append_singleton ms m ih =>
    obtain ⟨hms, -, hlast⟩ := List.pairwise_append.1 h
    rw [ofList_concat, ih hms, insertMember_of_last (fun n hn => hlast n hn m (List.mem_singleton_self m))]

/-- The first key is not among the others. -/
theorem Ordered.lookup_rest {rest : Members} (h : Ordered ((key, value) :: rest)) : rest.lookup key = none := by
  refine List.lookup_eq_none_iff.2 fun m hm => bne_iff_ne.2 ?_
  rintro rfl
  exact String.lt_irrefl _ ((List.pairwise_cons.1 h).1 m hm)

/-- The keys are in order by themselves. -/
theorem Ordered.keys (h : ms.Ordered) : (ms.map (·.1)).Pairwise (· < ·) := List.pairwise_map.2 h

theorem Ordered.nodup_keys (h : ms.Ordered) : (ms.map (·.1)).Nodup := by
  refine h.keys.imp ?_
  rintro k l hlt rfl
  exact String.lt_irrefl k hlt

/-- Later keys are looked up behind the first. -/
theorem Ordered.lookup_behind {k : String} {v : Json} {rest : Members} (h : Ordered ((k, v) :: rest))
    {m : String × Json} (hm : m ∈ rest) (w : Json) (us : Members) :
    List.lookup m.1 ((k, w) :: us) = us.lookup m.1 := by
  have hlt : k < m.1 := (List.pairwise_cons.1 h).1 m hm
  have hne : (m.1 == k) = false := beq_false_of_ne fun heq => String.lt_irrefl k (heq ▸ hlt)
  rw [List.lookup_cons, hne]

/-- Under the id of a member is its value. -/
theorem Ordered.lookup_of_mem (h : ms.Ordered) {m : String × Json} (hm : m ∈ ms) :
    ms.lookup m.1 = some m.2 := by
  induction ms with
  | nil => cases hm
  | cons first rest ih =>
    obtain ⟨k, v⟩ := first
    rcases List.mem_cons.1 hm with rfl | hm
    · exact List.lookup_cons_self
    · rw [h.lookup_behind hm]
      exact ih (List.Pairwise.of_cons h) hm

theorem mem_of_lookup {k : String} {v : Json} (h : ms.lookup k = some v) : (k, v) ∈ ms := by
  obtain ⟨before, after, rfl, -⟩ := List.lookup_eq_some_iff.1 h
  exact List.mem_append_right _ List.mem_cons_self

theorem lookup_isSome {k : String} : (ms.lookup k).isSome = true ↔ k ∈ ms.map (·.1) := by
  rw [List.lookup_isSome_iff, List.mem_map]
  constructor
  · rintro ⟨m, hm, hk⟩
    exact ⟨m, hm, (eq_of_beq hk).symm⟩
  · rintro ⟨m, hm, rfl⟩
    exact ⟨m, hm, beq_self_eq_true _⟩

/-- **Counting keys.** If the keys of one list are among those of another, and there are as many, they are
the same keys in the same order. -/
theorem Ordered.keys_eq (hms : ms.Ordered) (hns : ns.Ordered) (hlength : ms.length = ns.length)
    (hkeys : ∀ k ∈ ms.map (·.1), k ∈ ns.map (·.1)) : ms.map (·.1) = ns.map (·.1) := by
  have hle : (ns.map (·.1)).length ≤ (ms.map (·.1)).length := by
    rw [List.length_map, List.length_map]
    exact Nat.le_of_eq hlength.symm
  have hperm : (ms.map (·.1)).Perm (ns.map (·.1)) :=
    (hms.nodup_keys.subperm hkeys).perm_of_length_le hle
  exact hperm.eq_of_pairwise (fun _ _ _ _ h h' => absurd (String.lt_trans h h') (String.lt_irrefl _))
    hms.keys hns.keys

end LiveForm.Json.Members

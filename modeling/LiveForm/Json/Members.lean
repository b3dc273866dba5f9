import LiveForm.Json

/-!
# Members in order

The members of an object are listed in strict order of their keys, so that each key is there once. A member is
inserted at its place, which keeps the order (`Ordered.insertMember`), and a list of pairs is put in order by inserting
one after the other.
-/

namespace LiveForm.Json

/-- A list of members, in order or not. -/
abbrev Members := List (String × Json)

namespace Members

/-- The keys are in strict order. -/
def Ordered (ms : Members) : Prop := ms.Pairwise (·.1 < ·.1)

instance (ms : Members) : Decidable ms.Ordered := inferInstanceAs (Decidable (List.Pairwise _ _))

variable {ms : Members}

theorem mem_insertMember {key : String} {value : Json} {m : String × Json} (h : m ∈ insertMember key value ms) :
    m = (key, value) ∨ m ∈ ms := by
  induction ms with
  | nil => exact .inl (List.mem_singleton.1 h)
  | cons first rest ih =>
    simp only [insertMember] at h
    split at h
    · exact List.mem_cons.1 h
    · split at h
      · exact (List.mem_cons.1 h).imp_right (List.mem_cons_of_mem _)
      · rcases List.mem_cons.1 h with rfl | h
        · exact .inr List.mem_cons_self
        · exact (ih h).imp_right (List.mem_cons_of_mem _)

theorem Ordered.insertMember (h : ms.Ordered) (key : String) (value : Json) :
    Ordered (insertMember key value ms) := by
  induction ms with
  | nil => exact List.pairwise_singleton _ _
  | cons first rest ih =>
    obtain ⟨hfirst, hrest⟩ := List.pairwise_cons.1 h
    simp only [Json.insertMember]
    split
    · next hlt =>
      refine List.pairwise_cons.2 ⟨fun m hm => ?_, h⟩
      rcases List.mem_cons.1 hm with rfl | hm
      · exact hlt
      · exact String.lt_trans hlt (hfirst m hm)
    · next hnot =>
      split
      · next heq =>
        subst heq
        exact List.pairwise_cons.2 ⟨hfirst, hrest⟩
      · next hne =>
        refine List.pairwise_cons.2 ⟨fun m hm => ?_, ih hrest⟩
        rcases mem_insertMember hm with rfl | hm
        · exact String.not_le.1 fun hle => hne (String.le_antisymm hle (String.not_lt.1 hnot))
        · exact hfirst m hm

/-- Pairs put in order; of two for one key the later counts. -/
def ofList (pairs : List (String × Json)) : Members :=
  pairs.foldl (fun ms (key, value) => Json.insertMember key value ms) []

theorem ofList_eq_foldl (pairs : List (String × Json)) :
    ofList pairs = pairs.foldl (fun ms pair => Json.insertMember pair.1 pair.2 ms) [] := rfl

theorem ordered_ofList (pairs : List (String × Json)) : (ofList pairs).Ordered := by
  suffices h : ∀ ms : Members, ms.Ordered →
      Ordered (pairs.foldl (fun ms pair => Json.insertMember pair.1 pair.2 ms) ms) by
    rw [ofList_eq_foldl]
    exact h [] List.Pairwise.nil
  induction pairs with
  | nil => exact fun _ h => h
  | cons pair pairs ih => exact fun ms h => ih _ (h.insertMember pair.1 pair.2)

end Members

end LiveForm.Json

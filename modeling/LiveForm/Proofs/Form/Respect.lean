import LiveForm.Proofs.Form.Range
import LiveForm.Proofs.Json.Agreement

/-!
# What is the same is treated the same

Values that are the same are true or false together (`Json.truthy_eq_of_same`), and moved into the range of an
element they are the same again (`Element.same_clamp`). The two may take different ways there: the one may stay
as it was written, while the other is written anew. But whether a number moves, and where to, is found by
comparing floats, and equal floats compare alike with the bounds, whatever these are: a bound may be NaN, an
infinity, or on the wrong side of the other.
-/

namespace LiveForm

open Place

variable {x y : Float}

/-! ## Floats in range -/

/-- Equal floats are replaced by one bound, or neither is. -/
theorem beq_ite_congr {p q : Prop} [Decidable p] [Decidable q] (hpq : p ↔ q) (h : (x == y) = true) {bound : Float}
    (hbound : bound.isNaN = false) : ((if p then bound else x) == (if q then bound else y)) = true := by
  by_cases hp : p
  · rw [if_pos hp, if_pos (hpq.1 hp)]
    exact beq_of_not_isNaN hbound
  · rw [if_neg hp, if_neg (mt hpq.2 hp)]
    exact h

theorem maxFloat_congr (h : (x == y) = true) (lo : Float) : (maxFloat x lo == maxFloat y lo) = true := by
  rw [maxFloat, maxFloat, isNaN_of_beq h, isNaN_of_beq (beq_symm h)]
  cases hlo : lo.isNaN with
  | true => exact h
  | false => exact beq_ite_congr (lt_of_beq h) h hlo

theorem minFloat_congr (h : (x == y) = true) (hi : Float) : (minFloat x hi == minFloat y hi) = true := by
  rw [minFloat, minFloat, isNaN_of_beq h, isNaN_of_beq (beq_symm h)]
  cases hhi : hi.isNaN with
  | true => exact h
  | false => exact beq_ite_congr (beq_lt h) h hhi

/-- Equal floats are moved to equal places. -/
theorem clampFloat_congr (h : (x == y) = true) (min max : Option Float) :
    (clampFloat min max x == clampFloat min max y) = true := by
  have hraised : (clampFloat min none x == clampFloat min none y) = true := by
    cases min with
    | none => exact h
    | some lo => exact maxFloat_congr h lo
  rw [clampFloat_eq, clampFloat_eq min max y]
  cases max with
  | none => exact hraised
  | some hi => exact minFloat_congr hraised hi

/-! ## Numbers written anew -/

theorem numberOfFloat_of_not_isFinite (h : x.isFinite = false) : numberOfFloat x = .null := by
  have hnone : Binary.ofFloat? x = none := by
    rw [← Option.isNone_iff_eq_none, ← Option.not_isSome, isSome_ofFloat?, h]
    rfl
  rw [numberOfFloat, hnone, Json.ofFloat, Number.ofFloat?, dif_neg (Bool.eq_false_iff.1 h)]
  rfl

/-- Equal floats are written as the same number, if as any. -/
theorem same_numberOfFloat (h : (x == y) = true) : (numberOfFloat x).same (numberOfFloat y) = true := by
  by_cases hx : x.isFinite
  · obtain ⟨m, hm, hxm⟩ := numberOfFloat_beq hx
    obtain ⟨n, hn, hyn⟩ := numberOfFloat_beq ((isFinite_of_beq h).symm.trans hx)
    rw [hm, hn]
    exact beq_trans (beq_trans hxm h) (beq_symm hyn)
  · have hx := Bool.eq_false_iff.2 hx
    rw [numberOfFloat_of_not_isFinite hx, numberOfFloat_of_not_isFinite ((isFinite_of_beq h).symm.trans hx)]
    exact Json.same_refl .null

theorem Number.truthy_eq_of_same {m n : Number} (h : m.same n = true) : m.truthy = n.truthy := by
  have hzero : (m.toFloat == 0.0) = (n.toFloat == 0.0) :=
    Bool.eq_iff_iff.2 ⟨beq_trans (beq_symm h), beq_trans h⟩
  rw [truthy, truthy, bne, bne, hzero, isNaN_of_isFinite m.isFinite_toFloat, isNaN_of_isFinite n.isFinite_toFloat]

/-! ## Values -/

variable {v w : Json}

/-- Values that are the same are true or false together. -/
theorem Json.truthy_eq_of_same (h : v.same w = true) : v.truthy = w.truthy := by
  cases v with
  | null =>
    obtain rfl := sameBy_null.1 h
    rfl
  | bool b =>
    obtain rfl := sameBy_bool.1 h
    rfl
  | num n =>
    obtain ⟨m, rfl, hn⟩ := sameBy_num.1 h
    exact Number.truthy_eq_of_same hn
  | str s =>
    obtain rfl := sameBy_str.1 h
    rfl
  | arr vs =>
    obtain ⟨ws, rfl, hs⟩ := sameBy_arr.1 h
    cases vs with
    | nil =>
      obtain rfl := sameItems_nil.1 hs
      rfl
    | cons v vs =>
      obtain ⟨u, us, rfl, -⟩ := sameItems_cons.1 hs
      rfl
  | obj ms =>
    obtain ⟨ns, rfl, hs⟩ := sameBy_obj.1 h
    cases ms with
    | nil =>
      obtain rfl := sameMembers_nil.1 hs
      rfl
    | cons m ms =>
      obtain ⟨u, us, rfl, -⟩ := sameMembers_cons.1 hs
      rfl

theorem Element.clamp_of_not_num (e : Element) (h : ¬∃ n, v = .num n) : e.clamp v = v := by
  rw [clamp.eq_def]
  split
  · split
    · exact absurd ⟨_, rfl⟩ h
    · rfl
  · rfl

/-- What a number becomes in an element that has a range. -/
theorem Element.clamp_num {e : Element} (h : e.capabilities.range = true) (n : Number) :
    e.clamp (.num n) =
      if clampFloat e.min e.max n.toFloat == n.toFloat then .num n
      else numberOfFloat (clampFloat e.min e.max n.toFloat) := by
  rw [clamp, if_pos h]

/-- **Moving values into range keeps them the same.** -/
theorem Element.same_clamp (e : Element) (h : v.same w = true) : (e.clamp v).same (e.clamp w) = true := by
  by_cases hnum : ∃ m, v = .num m
  · obtain ⟨m, rfl⟩ := hnum
    obtain ⟨n, rfl, hn⟩ := Json.sameBy_num.1 h
    by_cases hrange : e.capabilities.range
    · have hclamp := clampFloat_congr hn e.min e.max
      -- Both stay as they are, or both are written anew.
      have hstays : (clampFloat e.min e.max m.toFloat == m.toFloat) =
          (clampFloat e.min e.max n.toFloat == n.toFloat) :=
        Bool.eq_iff_iff.2 ⟨fun hm => beq_trans (beq_symm hclamp) (beq_trans hm hn),
          fun hn' => beq_trans hclamp (beq_trans hn' (beq_symm hn))⟩
      rw [clamp_num hrange, clamp_num hrange, hstays]
      split
      · exact h
      · exact same_numberOfFloat hclamp
    · rw [clamp, clamp, if_neg hrange, if_neg hrange]
      exact h
  · have hnum' : ¬∃ n, w = .num n := by
      rintro ⟨n, rfl⟩
      obtain ⟨m, rfl, -⟩ := Json.sameBy_num.1 (Json.same_symm h)
      exact hnum ⟨m, rfl⟩
    rw [clamp_of_not_num e hnum, clamp_of_not_num e hnum']
    exact h

/-- **Sameness is respected.** Being the same is an equivalence of values, for which it is enough to look for the
members of one object in the other. Truth does not tell apart what is the same, nor does the range of any
element. -/
theorem Json.same_respected :
    Equivalence (fun v w : Json => v.same w = true) ∧
      (∀ ms ns : Values, (Json.obj ms.members).same (.obj ns.members) = true ↔
        ms.members.length = ns.members.length ∧
          ∀ m ∈ ms.members, ∃ w, ns.lookup m.1 = some w ∧ m.2.same w = true) ∧
      ∀ v w : Json, v.same w = true →
        v.truthy = w.truthy ∧ ∀ e : Element, (e.clamp v).same (e.clamp w) = true := by
  refine ⟨⟨same_refl, same_symm, same_trans⟩, fun ms ns => ?_, fun v w h => ?_⟩
  · rw [same, sameBy]
    exact sameMembers_iff_contained ms.ordered ns.ordered
  · exact ⟨truthy_eq_of_same h, fun e => e.same_clamp h⟩

/-- A nested number written in two ways, and one that a slider leaves as it is in either way of writing. -/
theorem same_respected_in_slider :
    let v : Json := .obj [("a", .arr [.int 3])]
    let w : Json := .obj [("a", .arr [.ofFloat 3.0])]
    let e : Element := { id := "s", type := .slider, max := some 5.0 }
    v ≠ w ∧ w.same v = true ∧ v.truthy = w.truthy ∧
      e.clamp (.int 3) ≠ e.clamp (.ofFloat 3.0) ∧ (e.clamp (.int 3)).same (e.clamp (.ofFloat 3.0)) = true := by
  obtain ⟨hequivalence, hmembers, hrespected⟩ := Json.same_respected
  have hnested : (Json.obj [("a", .arr [.int 3])]).same (.obj [("a", .arr [.ofFloat 3.0])]) = true :=
    (hmembers (.ofList [("a", .arr [.int 3])]) (.ofList [("a", .arr [.ofFloat 3.0])])).2
      ⟨rfl, List.forall_mem_singleton.2 ⟨_, rfl, by decide⟩⟩
  refine ⟨by decide, hequivalence.symm hnested, (hrespected _ _ hnested).1, by decide, ?_⟩
  exact (hrespected (.int 3) (.ofFloat 3.0) (by decide)).2 _

end LiveForm

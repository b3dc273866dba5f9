import LiveForm.Proofs.Decimal.Places

/-!
# The order of floats

Floats are compared by their places. So those that have one, which are all but NaN, are in a total order
(`le_of_not_lt`), and floats at one place have the same bounds (`le_of_beq`, `beq_le`).
-/

namespace LiveForm.Place

open Float.Model Float.Model.UnpackedFloat

variable {x y z : Float}

theorem order_swap (p q : Int × Int × Int) : (order p q).swap = order q p := by
  simp only [order, Ordering.swap_then, Int.compare_swap]

theorem isNaN_eq_false_iff : x.isNaN = false ↔ ∃ p, ofFloat? x = some p := by
  show x.toModel.unpack.isNaN = false ↔ ∃ p, of? x.toModel.unpack = some p
  cases x.toModel.unpack with
  | notANumber => exact iff_of_false nofun nofun
  | infinity s => cases s <;> exact iff_of_true rfl ⟨_, rfl⟩
  | zero s => exact iff_of_true rfl ⟨_, rfl⟩
  | finite s m e hm => cases s <;> exact iff_of_true rfl ⟨_, rfl⟩

theorem isNaN_of_isFinite (h : x.isFinite = true) : x.isNaN = false :=
  isNaN_eq_false_iff.2 (of?_ne_none (unpack_ne_nan_of_isFinite h))

theorem lt_iff_place :
    x < y ↔ ∃ p q, ofFloat? x = some p ∧ ofFloat? y = some q ∧ order p q = .lt := by
  show decide ((x.toModel.unpack.compare y.toModel.unpack == some .lt) = true) = true ↔ _
  rw [decide_eq_true_iff, beq_iff_eq, compare_eq_order, Option.bind_eq_some_iff]
  simp only [Option.map_eq_some_iff, exists_and_left]
  rfl

theorem le_iff_place :
    x ≤ y ↔ ∃ p q, ofFloat? x = some p ∧ ofFloat? y = some q ∧ (order p q).isLE = true := by
  show decide ((x.toModel.unpack.compare y.toModel.unpack).any (·.isLE) = true) = true ↔ _
  rw [decide_eq_true_iff, compare_eq_order, Option.any_eq_true]
  simp only [Option.bind_eq_some_iff, Option.map_eq_some_iff, ofFloat?]
  constructor
  · rintro ⟨-, ⟨p, hp, q, hq, rfl⟩, h⟩
    exact ⟨p, q, hp, hq, h⟩
  · rintro ⟨p, q, hp, hq, h⟩
    exact ⟨_, ⟨p, hp, q, hq, rfl⟩, h⟩

theorem le_self (h : x.isNaN = false) : x ≤ x := by
  obtain ⟨p, hp⟩ := isNaN_eq_false_iff.1 h
  exact le_iff_place.2 ⟨p, p, hp, hp, by rw [order_eq_iff.2 rfl]; rfl⟩

/-- Floats that have places are in a total order. -/
theorem le_of_not_lt (hx : x.isNaN = false) (hy : y.isNaN = false) (h : ¬y < x) : x ≤ y := by
  obtain ⟨p, hp⟩ := isNaN_eq_false_iff.1 hx
  obtain ⟨q, hq⟩ := isNaN_eq_false_iff.1 hy
  refine le_iff_place.2 ⟨p, q, hp, hq, ?_⟩
  rw [← order_swap]
  cases hqp : order q p with
  | lt => exact absurd (lt_iff_place.2 ⟨q, p, hq, hp, hqp⟩) h
  | eq => rfl
  | gt => rfl

theorem not_lt_of_le (h : x ≤ y) : ¬y < x := by
  intro hlt
  obtain ⟨p, q, hp, hq, hle⟩ := le_iff_place.1 h
  obtain ⟨q', p', hq', hp', horder⟩ := lt_iff_place.1 hlt
  obtain rfl := Option.some.inj (hp.symm.trans hp')
  obtain rfl := Option.some.inj (hq.symm.trans hq')
  rw [← order_swap, horder] at hle
  cases hle

/-! ## Floats at one place -/

theorem le_of_beq (h : (x == y) = true) : x ≤ z ↔ y ≤ z := by
  obtain ⟨p, hx, hy⟩ := beq_iff_place.1 h
  rw [le_iff_place, le_iff_place, hx, hy]

theorem beq_le (h : (x == y) = true) : z ≤ x ↔ z ≤ y := by
  obtain ⟨p, hx, hy⟩ := beq_iff_place.1 h
  rw [le_iff_place, le_iff_place, hx, hy]

theorem lt_of_beq (h : (x == y) = true) : x < z ↔ y < z := by
  obtain ⟨p, hx, hy⟩ := beq_iff_place.1 h
  rw [lt_iff_place, lt_iff_place, hx, hy]

theorem beq_lt (h : (x == y) = true) : z < x ↔ z < y := by
  obtain ⟨p, hx, hy⟩ := beq_iff_place.1 h
  rw [lt_iff_place, lt_iff_place, hx, hy]

/-- What is equal to anything is not NaN. -/
theorem isNaN_of_beq (h : (x == y) = true) : x.isNaN = false := by
  obtain ⟨p, hx, -⟩ := beq_iff_place.1 h
  exact isNaN_eq_false_iff.2 ⟨p, hx⟩

theorem beq_of_not_isNaN (h : x.isNaN = false) : (x == x) = true := by
  obtain ⟨p, hx⟩ := isNaN_eq_false_iff.1 h
  exact beq_iff_place.2 ⟨p, hx, hx⟩

/-- The infinities are further from zero than any finite float. -/
theorem isFinite_iff_place : x.isFinite = true ↔ ∃ p, ofFloat? x = some p ∧ p.1.natAbs < 2 := by
  show x.toModel.unpack.isFinite = true ↔ ∃ p, of? x.toModel.unpack = some p ∧ p.1.natAbs < 2
  cases x.toModel.unpack with
  | notANumber => exact iff_of_false nofun nofun
  | infinity s =>
    refine iff_of_false nofun ?_
    rintro ⟨p, hp, hlt⟩
    cases s <;> obtain rfl := Option.some.inj hp <;> exact absurd hlt (by decide)
  | zero s => exact iff_of_true rfl ⟨_, rfl, by decide⟩
  | finite s m e hm => cases s <;> exact iff_of_true rfl ⟨_, rfl, Nat.one_lt_two⟩

theorem isFinite_of_beq (h : (x == y) = true) : x.isFinite = y.isFinite := by
  obtain ⟨p, hx, hy⟩ := beq_iff_place.1 h
  rw [Bool.eq_iff_iff, isFinite_iff_place, isFinite_iff_place, hx, hy]

end LiveForm.Place

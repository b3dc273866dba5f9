import LiveForm.Proofs.Decimal.Exact
import LiveForm.Proofs.Decimal.Order

/-!
# The number that a float is

A finite float is a binary fraction, so it is a rational number (`Binary.value`), and the two zeros are one
number. Floats are in the order of their numbers (`le_iff_value`), and they compare equal just if they are the same
number (`beq_iff_value`). This is so because the exponent of a stored magnitude counts more than its mantissa
(`Stored.value_lt`): the magnitude with the greater exponent has to be normal, and then the mantissa of the other
would need a bit too many to come up to it.
-/

namespace LiveForm

/-- The number that a binary fraction is. -/
def Binary.value (b : Binary) : ℚ := (if b.negative then -1 else 1) * (b.mantissa * 2 ^ b.exponent)

/-- The number that a float is, if it is finite. -/
def floatValue (x : Float) : ℚ := ((Binary.ofFloat? x).map Binary.value).getD 0

namespace Place

open Float.Model Float.Model.UnpackedFloat

/-! ## Stored magnitudes -/

/-- A mantissa and an exponent that a finite float other than zero is stored with. -/
structure Stored (m : Nat) (e : Int) : Prop where
  pos : 0 < m
  normal_or_short : Normal m e ∨ m < 2 ^ 52 ∧ e = -1074

namespace Stored

variable {m n : Nat} {e f : Int}

theorem lt (h : Stored m e) : m < 2 ^ 53 := by
  rcases h.normal_or_short with hnormal | ⟨hshort, -⟩
  · exact hnormal.upper
  · exact Nat.lt_trans hshort (by decide)

theorem least (h : Stored m e) : -1074 ≤ e := by
  rcases h.normal_or_short with hnormal | ⟨-, rfl⟩
  · exact hnormal.least
  · exact Int.le_refl _

theorem value_pos (h : Stored m e) : (0 : ℚ) < m * 2 ^ e := by
  have hm : (0 : ℚ) < m := Nat.cast_pos.2 h.pos
  positivity

/-- **The greater exponent** makes the greater magnitude. -/
theorem value_lt (hm : Stored m e) (hn : Stored n f) (h : e < f) : (m : ℚ) * 2 ^ e < n * 2 ^ f := by
  have hnormal : Normal n f := by
    rcases hn.normal_or_short with hnormal | ⟨-, hleast⟩
    · exact hnormal
    · have := hm.least
      omega
  have htwice : m < n * 2 := by
    have hlower := hnormal.lower
    have hupper := hm.lt
    omega
  calc (m : ℚ) * 2 ^ e
      < (n * 2 : ℕ) * 2 ^ e := by gcongr
    _ = n * 2 ^ (e + 1) := by rw [zpow_add_one₀ two_ne_zero]; push_cast; ring
    _ ≤ n * 2 ^ f := by gcongr <;> [norm_num; exact h]

end Stored

/-! ## Places and numbers -/

/-- The number at a place of a finite float. -/
def number (p : Int × Int × Int) : ℚ := p.2.2 * 2 ^ (p.1 * p.2.1)

/-- The places of finite floats. -/
inductive OfFinite : Int × Int × Int → Prop
  | zero : OfFinite (0, 0, 0)
  | positive {m : Nat} {e : Int} (stored : Stored m e) : OfFinite (1, e, m)
  | negative {m : Nat} {e : Int} (stored : Stored m e) : OfFinite (-1, -e, -m)

theorem number_zero : number (0, 0, 0) = 0 := by simp [number]

theorem number_positive (m : Nat) (e : Int) : number (1, e, m) = m * 2 ^ e := by simp [number]

theorem number_negative (m : Nat) (e : Int) : number (-1, -e, -m) = -(m * 2 ^ e) := by simp [number]

theorem order_eq_lt {p q : Int × Int × Int} : order p q = .lt ↔
    p.1 < q.1 ∨ p.1 = q.1 ∧ (p.2.1 < q.2.1 ∨ p.2.1 = q.2.1 ∧ p.2.2 < q.2.2) := by
  simp only [order, Ordering.then_eq_lt, Int.compare_eq_lt, Int.compare_eq_eq]

/-- **Places are in the order of their numbers.** -/
theorem OfFinite.number_lt {p q : Int × Int × Int} (hp : OfFinite p) (hq : OfFinite q)
    (h : order p q = .lt) : number p < number q := by
  rw [order_eq_lt] at h
  cases hp with
  | zero =>
    rw [number_zero]
    cases hq with
    | zero => omega
    | positive hn =>
      rw [number_positive]
      exact hn.value_pos
    | negative hn => omega
  | @positive m e hm =>
    cases hq with
    | zero => omega
    | @positive n f hn =>
      rw [number_positive, number_positive]
      rcases h with h | ⟨-, h | ⟨rfl, h⟩⟩
      · exact absurd h (lt_irrefl _)
      · exact hm.value_lt hn h
      · have hlt : m < n := Int.ofNat_lt.1 h
        gcongr
    | negative hn => omega
  | @negative m e hm =>
    have hneg := hm.value_pos
    rw [number_negative]
    cases hq with
    | zero =>
      rw [number_zero]
      linarith
    | positive hn =>
      have hpos := hn.value_pos
      rw [number_positive]
      linarith
    | @negative n f hn =>
      rw [number_negative, neg_lt_neg_iff]
      rcases h with h | ⟨-, h | ⟨he, h⟩⟩
      · exact absurd h (lt_irrefl _)
      · exact hn.value_lt hm (Int.neg_lt_neg_iff.1 h)
      · obtain rfl : e = f := neg_injective he
        have hlt : n < m := Int.ofNat_lt.1 (Int.neg_lt_neg_iff.1 h)
        gcongr

theorem OfFinite.number_lt_iff {p q : Int × Int × Int} (hp : OfFinite p) (hq : OfFinite q) :
    number p < number q ↔ order p q = .lt := by
  refine ⟨fun h => ?_, hp.number_lt hq⟩
  cases horder : order p q with
  | lt => rfl
  | eq =>
    obtain rfl := order_eq_iff.1 horder
    exact absurd h (lt_irrefl _)
  | gt =>
    have hlt : order q p = .lt := by rw [← order_swap, horder, Ordering.swap_gt]
    exact absurd h (hq.number_lt hp hlt).not_gt

theorem OfFinite.number_le_iff {p q : Int × Int × Int} (hp : OfFinite p) (hq : OfFinite q) :
    number p ≤ number q ↔ (order p q).isLE = true := by
  rw [← not_lt, hq.number_lt_iff hp, ← order_swap]
  cases order p q <;> decide

/-- There is one number at a place, and one place for a number. -/
theorem OfFinite.number_inj {p q : Int × Int × Int} (hp : OfFinite p) (hq : OfFinite q)
    (h : number p = number q) : p = q := by
  refine order_eq_iff.1 ?_
  have hle := (hp.number_le_iff hq).1 h.le
  cases horder : order p q with
  | lt => exact absurd h (hp.number_lt hq horder).ne
  | eq => rfl
  | gt => rw [horder] at hle; cases hle

theorem floatValue_eq {x : Float} {b : Binary} (h : Binary.ofFloat? x = some b) : floatValue x = b.value := by
  rw [floatValue, h]
  rfl

theorem floatValue_of_positive {x : Float} {m : Nat} {e : Int} {hm : 0 < m}
    (h : x.toModel.unpack = .finite .positive m e hm) : floatValue x = m * 2 ^ e := by
  have hx : Binary.ofFloat? x = some ⟨false, m, e⟩ := by rw [Binary.ofFloat?, h]
  rw [floatValue_eq hx, Binary.value, if_neg Bool.false_ne_true, one_mul]

theorem floatValue_of_negative {x : Float} {m : Nat} {e : Int} {hm : 0 < m}
    (h : x.toModel.unpack = .finite .negative m e hm) : floatValue x = -(m * 2 ^ e) := by
  have hx : Binary.ofFloat? x = some ⟨true, m, e⟩ := by rw [Binary.ofFloat?, h]
  rw [floatValue_eq hx, Binary.value, if_pos rfl, neg_one_mul]

/-- The binary fractions are the finite floats. -/
theorem isSome_ofFloat? (x : Float) : (Binary.ofFloat? x).isSome = x.isFinite := by
  show (Binary.ofFloat? x).isSome = x.toModel.unpack.isFinite
  rw [Binary.ofFloat?]
  cases x.toModel.unpack with
  | notANumber => rfl
  | infinity s => rfl
  | zero s => cases s <;> rfl
  | finite s m e hm => cases s <;> rfl

theorem exists_binary {x : Float} (h : x.isFinite = true) : ∃ b, Binary.ofFloat? x = some b :=
  Option.isSome_iff_exists.1 ((isSome_ofFloat? x).trans h)

/-- A finite float is the number at its place. -/
theorem exists_place {x : Float} (h : x.isFinite = true) :
    ∃ p, ofFloat? x = some p ∧ OfFinite p ∧ floatValue x = number p := by
  have hx : x.toModel.unpack.isFinite = true := h
  rw [ofFloat?]
  cases hunpack : x.toModel.unpack with
  | notANumber => rw [hunpack] at hx; cases hx
  | infinity s => rw [hunpack] at hx; cases hx
  | zero s =>
    refine ⟨_, rfl, .zero, ?_⟩
    rw [floatValue, Binary.ofFloat?, hunpack, number_zero]
    cases s <;> simp [Binary.value]
  | finite s m e hm =>
    have hstored : Stored m e := ⟨hm, normal_or_short hunpack⟩
    cases s with
    | positive =>
      exact ⟨_, rfl, .positive hstored, (floatValue_of_positive hunpack).trans (number_positive m e).symm⟩
    | negative =>
      exact ⟨_, rfl, .negative hstored, (floatValue_of_negative hunpack).trans (number_negative m e).symm⟩

/-- **Finite floats are equal when they are the same number.** -/
theorem beq_iff_value {x y : Float} (hx : x.isFinite = true) (hy : y.isFinite = true) :
    (x == y) = true ↔ floatValue x = floatValue y := by
  obtain ⟨p, hpx, hp, hvx⟩ := exists_place hx
  obtain ⟨q, hqy, hq, hvy⟩ := exists_place hy
  rw [beq_iff_place, hpx, hqy, hvx, hvy]
  constructor
  · rintro ⟨r, hr, hr'⟩
    rw [Option.some.inj hr, Option.some.inj hr']
  · intro h
    obtain rfl := hp.number_inj hq h
    exact ⟨p, rfl, rfl⟩

/-- **Finite floats are in the order of their numbers.** -/
theorem le_iff_value {x y : Float} (hx : x.isFinite = true) (hy : y.isFinite = true) :
    x ≤ y ↔ floatValue x ≤ floatValue y := by
  obtain ⟨p, hpx, hp, hvx⟩ := exists_place hx
  obtain ⟨q, hqy, hq, hvy⟩ := exists_place hy
  rw [le_iff_place, hpx, hqy, hvx, hvy, hp.number_le_iff hq]
  constructor
  · rintro ⟨_, _, hr, hr', h⟩
    rwa [Option.some.inj hr, Option.some.inj hr']
  · exact fun h => ⟨p, q, rfl, rfl, h⟩

theorem lt_iff_value {x y : Float} (hx : x.isFinite = true) (hy : y.isFinite = true) :
    x < y ↔ floatValue x < floatValue y := by
  obtain ⟨p, hpx, hp, hvx⟩ := exists_place hx
  obtain ⟨q, hqy, hq, hvy⟩ := exists_place hy
  rw [lt_iff_place, hpx, hqy, hvx, hvy, hp.number_lt_iff hq]
  constructor
  · rintro ⟨_, _, hr, hr', h⟩
    rwa [Option.some.inj hr, Option.some.inj hr']
  · exact fun h => ⟨p, q, rfl, rfl, h⟩

end Place

/-! ## Integers among binary fractions -/

/-- A magnitude that is an integer has nothing after its binary point. -/
theorem Binary.floorAbs_of_value {b : Binary} {k : Nat} (h : (b.mantissa : ℚ) * 2 ^ b.exponent = k) :
    b.isIntegral = true ∧ b.floorAbs = k := by
  rw [isIntegral, floorAbs]
  by_cases he : 0 ≤ b.exponent
  · obtain ⟨j, hj⟩ := Int.eq_ofNat_of_zero_le he
    rw [hj, zpow_natCast] at h
    refine ⟨by simp [he], ?_⟩
    rw [if_pos he, hj, Int.toNat_natCast]
    exact_mod_cast h
  · obtain ⟨j, hj⟩ := Int.exists_eq_neg_ofNat (Int.le_of_not_le he)
    have hmantissa : b.mantissa = k * 2 ^ j := by
      rw [hj, zpow_neg, zpow_natCast, ← div_eq_mul_inv, div_eq_iff (by positivity)] at h
      exact_mod_cast h
    rw [if_neg he, hj, Int.neg_neg, Int.toNat_natCast, hmantissa, Nat.mul_mod_left,
      Nat.mul_div_cancel k (Nat.two_pow_pos j)]
    exact ⟨by simp, rfl⟩

/-- A binary fraction that is an integer is read as this integer. -/
theorem Binary.toInt?_of_value {b : Binary} {n : Int} (h : b.value = n) : b.toInt? = some n := by
  have hpos : (0 : ℚ) ≤ b.mantissa * 2 ^ b.exponent := by positivity
  have hmagnitude : (b.mantissa : ℚ) * 2 ^ b.exponent = n.natAbs := by
    rw [Nat.cast_natAbs, Int.cast_abs, ← h, value, abs_mul, abs_of_nonneg hpos]
    cases b.negative <;> simp
  obtain ⟨hintegral, hfloor⟩ := floorAbs_of_value hmagnitude
  rw [toInt?, if_pos hintegral, truncate, hfloor, Option.some.injEq]
  -- The sign is that of the number.
  rw [value, hmagnitude, ← Int.cast_natCast] at h
  by_cases hnegative : b.negative
  · rw [if_pos hnegative, neg_one_mul, ← Int.cast_neg, Int.cast_inj] at h
    rw [if_pos hnegative, h]
  · rw [if_neg hnegative, one_mul, Int.cast_inj] at h
    rw [if_neg hnegative, h]

/-- The integer that a binary fraction is read as, is its number. -/
theorem Binary.value_of_toInt? {b : Binary} {n : Int} (h : b.toInt? = some n) : b.value = n := by
  rw [toInt?, Option.ite_none_right_eq_some] at h
  obtain ⟨hintegral, htruncate⟩ := h
  have hmagnitude : (b.mantissa : ℚ) * 2 ^ b.exponent = b.floorAbs := by
    have hmul : (b.floorAbs : ℚ) * 2 ^ (-b.exponent).toNat = b.mantissa * 2 ^ b.exponent.toNat := by
      exact_mod_cast floorAbs_mul hintegral
    have hexponent : b.exponent = b.exponent.toNat - (-b.exponent).toNat := by omega
    rw [hexponent, zpow_sub₀ two_ne_zero, zpow_natCast, zpow_natCast, mul_div_assoc', div_eq_iff (by positivity), hmul]
  rw [value, hmagnitude, ← Option.some.inj htruncate, truncate]
  cases b.negative <;> simp

end LiveForm

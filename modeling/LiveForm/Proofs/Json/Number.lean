import LiveForm.Proofs.Decimal.Nearest
import LiveForm.Json.Same

/-!
# The number that a JSON number denotes

A number denotes a rational (`Number.value`), and two spellings of one number denote the same. What comparisons
look at is the float nearest to it, so that they see an integer rounded to 53 binary digits (`Number.rounded`):
two numbers are the same just if they are rounded alike (`same_iff_rounded`). Spellings of one number always are.
Different numbers are told apart where rounding leaves them as they are (`Exact`), as it does with floats and
with integers up to `2 ^ 53`; larger integers that are rounded alike are within 2048 of each other.
-/

namespace LiveForm.Number

/-- The number that is denoted: an integer denotes itself, a float what it is in binary. -/
def value : Number → ℚ
  | .int n _ => n
  | .real x _ => floatValue x

/-- The number as comparisons see it, an integer with 53 binary digits. -/
def rounded : Number → ℚ
  | .int n _ => if 0 ≤ n then nearest n.natAbs else -nearest n.natAbs
  | .real x _ => floatValue x

/-- A number that comparisons see as it is. -/
def Exact (n : Number) : Prop := n.rounded = n.value

/-! ## What comparisons see -/

theorem rounded_natCast {k : Nat} (h : InWordRange k) : (Number.int k h).rounded = nearest k := by
  rw [rounded, if_pos (Int.natCast_nonneg k), Int.natAbs_natCast]

theorem rounded_neg {k : Nat} (h : InWordRange (-k)) : (Number.int (-k) h).rounded = -nearest k := by
  rcases Nat.eq_zero_or_pos k with rfl | hpos
  · rfl
  · rw [rounded, if_neg (by omega), Int.natAbs_neg, Int.natAbs_natCast]

theorem floatValue_zero : floatValue (0 : Nat).toUInt64.toFloat = 0 := by
  have hzero : Binary.ofFloat? (0 : Nat).toUInt64.toFloat = some ⟨false, 0, 0⟩ := by decide
  rw [Place.floatValue_eq hzero]
  simp [Binary.value]

/-- The nearest float of a number is the number rounded. -/
theorem floatValue_toFloat (n : Number) : floatValue n.toFloat = n.rounded := by
  cases n with
  | real x h => rfl
  | int n h =>
    have hlower := h.1
    have hupper := h.2
    obtain ⟨k, rfl | rfl⟩ := Int.eq_nat_or_neg n
    · rw [toFloat_natCast h, rounded_natCast h]
      rcases Nat.eq_zero_or_pos k with rfl | hpos
      · exact floatValue_zero
      · exact Place.floatValue_toFloat hpos (by omega)
    · rcases Nat.eq_zero_or_pos k with rfl | hpos
      · exact floatValue_zero
      · rw [toFloat_neg hpos h, rounded_neg h]
        exact Place.floatValue_neg_toFloat hpos (by omega)

/-- **Two numbers are the same** when they are rounded alike. -/
theorem same_iff_rounded (m n : Number) : m.same n = true ↔ m.rounded = n.rounded := by
  rw [same, Place.beq_iff_value m.isFinite_toFloat n.isFinite_toFloat, floatValue_toFloat,
    floatValue_toFloat]

/-! ## What they see as it is -/

/-- Integers of at most 53 binary digits are not rounded. -/
theorem exact_of_natAbs_le {n : Int} (h : InWordRange n) (hle : n.natAbs ≤ 2 ^ 53) :
    (Number.int n h).Exact := by
  obtain ⟨k, rfl | rfl⟩ := Int.eq_nat_or_neg n
  · rw [Int.natAbs_natCast] at hle
    rw [Exact, rounded_natCast h, nearest_of_le hle, value, Int.cast_natCast]
  · rw [Int.natAbs_neg, Int.natAbs_natCast] at hle
    rw [Exact, rounded_neg h, nearest_of_le hle, value, Int.cast_neg, Int.cast_natCast]

/-- An integer that a float is, is not rounded. -/
theorem exact_of_value {x : Float} (hx : x.isFinite = true) {n : Int} (hn : InWordRange n)
    (h : floatValue x = n) : (Number.int n hn).Exact := by
  have hinteger : (Binary.ofFloat? x).bind Binary.toInt? = some n := by
    obtain ⟨b, hb⟩ := Place.exists_binary hx
    rw [hb, Option.bind_some]
    exact Binary.toInt?_of_value ((Place.floatValue_eq hb).symm.trans h)
  have hplace : ((Number.int n hn).toFloat == x) = true := toFloat_beq hinteger hn
  rw [Place.beq_iff_value (isFinite_toFloat _) hx, floatValue_toFloat, h] at hplace
  exact hplace

/-- Two spellings of a number are rounded alike. -/
theorem rounded_eq_of_value_eq {m n : Number} (h : m.value = n.value) : m.rounded = n.rounded := by
  cases m with
  | int m hm =>
    cases n with
    | int n hn =>
      obtain rfl := Int.cast_inj.1 h
      rfl
    | real y hy => exact (exact_of_value hy hm h.symm).trans h
  | real x hx =>
    cases n with
    | int n hn => exact h.trans (exact_of_value hx hn h).symm
    | real y hy => exact h

/-! ## What they do not tell apart -/

/-- The units that words are rounded to are no greater than this. -/
theorem unitOf_le {k : Nat} (h : k < 2 ^ 64) : unitOf k ≤ 2048 := by
  have hlog : k.log2 ≤ 63 := by
    by_cases hk : k = 0
    · rw [hk, Nat.log2_zero]
      exact Nat.zero_le 63
    · exact Nat.lt_succ_iff.1 ((Nat.log2_lt hk).2 h)
  exact Nat.pow_le_pow_right (by decide) (show k.log2 - 52 ≤ 11 by omega)

theorem abs_rounded_sub_le {n : Int} (h : InWordRange n) : |(Number.int n h).rounded - n| ≤ 1024 := by
  have hnat {k : Nat} (hk : k < 2 ^ 64) : |(nearest k : ℚ) - k| ≤ 1024 := by
    obtain ⟨hupper, hlower⟩ := nearest_dist k
    have hunit := unitOf_le hk
    have hle : (nearest k : ℚ) ≤ k + 1024 := by exact_mod_cast (by omega : nearest k ≤ k + 1024)
    have hge : (k : ℚ) ≤ nearest k + 1024 := by exact_mod_cast (by omega : k ≤ nearest k + 1024)
    rw [abs_le]
    constructor <;> linarith
  have hlower := h.1
  have hupper := h.2
  obtain ⟨k, rfl | rfl⟩ := Int.eq_nat_or_neg n
  · rw [rounded_natCast h, Int.cast_natCast]
    exact hnat (by omega)
  · rw [rounded_neg h, Int.cast_neg, Int.cast_natCast, neg_sub_neg, abs_sub_comm]
    exact hnat (by omega)

/-- Integers that are the same are not far from each other. -/
theorem dist_le_of_same {m n : Int} {hm : InWordRange m} {hn : InWordRange n}
    (h : (Number.int m hm).same (.int n hn) = true) : |m - n| ≤ 2048 := by
  have hrounded := (same_iff_rounded _ _).1 h
  have hleft := abs_rounded_sub_le hm
  have hright := abs_rounded_sub_le hn
  rw [hrounded, abs_sub_comm] at hleft
  have hdist : |(m : ℚ) - n| ≤ 2048 := by
    calc |(m : ℚ) - n|
        ≤ |(m : ℚ) - (Number.int n hn).rounded| + |(Number.int n hn).rounded - n| := abs_sub_le _ _ _
      _ ≤ 2048 := by linarith
  exact_mod_cast hdist

end LiveForm.Number

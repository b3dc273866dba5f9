import LiveForm.Proofs.Decimal.Nearest

/-!
# The float that a number is rounded to

Around every float lies an interval of numbers that are rounded to it (`RoundsTo`). It ends halfway to the
neighbours, and the ends belong to it just if the mantissa is even. The neighbour below a power of two is half as
near as the one above, as the exponent changes there, except at the bottom, where all exponents are the same.

Products and quotients of floats are given to the rounding as a quotient of integers with a power of two
(`roundWithAccuracy_eq`). Where it starts does not matter, if it does not start above the last digit of the result:
the digits below are shifted out, and what is known of them is enough. The result can be one digit too long, if the
number lies below a power of two and is rounded to it; then a zero is dropped.
-/

namespace LiveForm

/-- What is no more than half away from an integer is rounded to it, and exactly half just if it is even. -/
theorem roundHalfEven_eq {n d m : Nat} (hd : 0 < d) (hlower : 2 * (m * d) ≤ 2 * n + d)
    (hupper : 2 * n ≤ 2 * (m * d) + d)
    (hodd : m % 2 = 1 → 2 * (m * d) < 2 * n + d ∧ 2 * n < 2 * (m * d) + d) : roundHalfEven n d = m := by
  have hdiv : n / d * d + n % d = n := Nat.div_add_mod' n d
  have hlt : n % d < d := Nat.mod_lt n hd
  have hle : m ≤ n / d + 1 := by
    by_contra hnot
    have := Nat.mul_le_mul_right d (show n / d + 2 ≤ m by omega)
    rw [Nat.add_mul] at this
    omega
  have hge : n / d ≤ m := by
    by_contra hnot
    have := Nat.mul_le_mul_right d (show m + 1 ≤ n / d by omega)
    rw [Nat.add_mul, Nat.one_mul] at this
    omega
  rw [roundHalfEven]
  rcases Nat.lt_or_eq_of_le hle with hbelow | habove
  · -- rounded down
    obtain rfl : m = n / d := by omega
    generalize n / d * d = product at *
    split
    · rfl
    · split
      · omega
      · rcases Nat.mod_two_eq_zero_or_one (n / d) with heven | hone
        · rw [heven, Nat.add_zero]
        · have := hodd hone
          omega
  · -- rounded up
    rw [habove, Nat.add_mul, Nat.one_mul] at hlower hupper hodd
    generalize n / d * d = product at *
    split
    · omega
    · split
      · exact habove.symm
      · rcases Nat.mod_two_eq_zero_or_one (n / d) with heven | hone
        · have := hodd (by omega)
          omega
        · omega

namespace Place

open Float.Model Float.Model.UnpackedFloat

/-! ## The numbers around a float -/

/-- How far the numbers below a float reach that are rounded to it, in quarters of its last digit. -/
def reach (m : Nat) (e : Int) : Nat := if m = 2 ^ 52 ∧ -1074 < e then 1 else 2

theorem reach_le (m : Nat) (e : Int) : reach m e ≤ 2 := by
  rw [reach]
  split <;> decide

/-- The numbers that are rounded to the float of this mantissa and this exponent. -/
structure RoundsTo (m : Nat) (e : Int) (q : ℚ) : Prop where
  lower : (4 * m - reach m e) * 2 ^ e ≤ 4 * q
  upper : 4 * q ≤ (4 * m + 2) * 2 ^ e
  inside : m % 2 = 1 → (4 * m - reach m e) * 2 ^ e < 4 * q ∧ 4 * q < (4 * m + 2) * 2 ^ e

variable {m : Nat} {e t : Int} {q : ℚ}

/-- The exponent that a number is rounded with is that of the float, or one less just below a power of two. -/
theorem RoundsTo.exponent (hq : RoundsTo m e q) (h : Stored m e) (hleast : -1074 ≤ t) (hbelow : q < 2 ^ (t + 53))
    (habove : t = -1074 ∨ (2 : ℚ) ^ (t + 52) ≤ q) : t = e ∨ t + 1 = e ∧ m = 2 ^ 52 ∧ -1074 < e := by
  have hlower := hq.lower
  have hupper := hq.upper
  have hm : (m : ℚ) ≤ 2 ^ 53 - 1 := by
    have : m + 1 ≤ 2 ^ 53 := h.lt
    have : (m : ℚ) + 1 ≤ 2 ^ 53 := by exact_mod_cast this
    linarith
  rcases lt_trichotomy t e with hlt | heq | hgt
  · right
    have hnormal : Normal m e := by
      rcases h.normal_or_short with hnormal | ⟨-, hshort⟩
      · exact hnormal
      · omega
    have hpos : (0 : ℚ) < 2 ^ e := by positivity
    have hpower : m = 2 ^ 52 := by
      -- any other mantissa is above the power of two that the number is below
      have hexponent : (2 : ℚ) ^ (t + 53) ≤ 2 ^ (e + 52) := zpow_le_zpow_right₀ (by norm_num) (by omega)
      rw [zpow_add₀ two_ne_zero e] at hexponent
      have hreach : (reach m e : ℚ) ≤ 2 := by exact_mod_cast reach_le m e
      have hless : (m : ℚ) < 2 ^ 52 + 1 := by nlinarith
      have hless : m < 2 ^ 52 + 1 := by exact_mod_cast hless
      have := hnormal.lower
      omega
    refine ⟨?_, hpower, by omega⟩
    by_contra hfar
    have hexponent : (2 : ℚ) ^ (t + 53) ≤ 2 ^ (e + 51) := zpow_le_zpow_right₀ (by norm_num) (by omega)
    rw [zpow_add₀ two_ne_zero e] at hexponent
    rw [reach, if_pos ⟨hpower, by omega⟩, hpower] at hlower
    push_cast at hlower
    nlinarith
  · exact .inl heq
  · -- the float has too few digits for the greater exponent
    exfalso
    have hnumber : (2 : ℚ) ^ (t + 52) ≤ q := habove.resolve_left (by have := h.least; omega)
    have hexponent : (2 : ℚ) ^ (e + 53) ≤ 2 ^ (t + 52) := zpow_le_zpow_right₀ (by norm_num) (by omega)
    have hpos : (0 : ℚ) < 2 ^ e := by positivity
    rw [zpow_add₀ two_ne_zero] at hexponent
    nlinarith

/-- What a number is rounded to with this exponent, over any denominator. -/
theorem RoundsTo.roundHalfEven {n d : Nat} (hq : RoundsTo m e (n / d * 2 ^ t)) (hd : 0 < d)
    (ht : t = e ∨ t + 1 = e ∧ m = 2 ^ 52 ∧ -1074 < e) (hbelow : (n : ℚ) / d * 2 ^ t < 2 ^ (t + 53)) :
    LiveForm.roundHalfEven n d = m * 2 ^ (e - t).toNat := by
  have hdpos : (0 : ℚ) < d := Nat.cast_pos.2 hd
  have hn : (n : ℚ) = n / d * d := (div_mul_cancel₀ (n : ℚ) hdpos.ne').symm
  have hreach : (reach m e : ℚ) ≤ 2 := by exact_mod_cast reach_le m e
  obtain ⟨hlower, hupper, hinside⟩ := hq
  generalize (n : ℚ) / d = x at *
  have hpos : (0 : ℚ) < 2 ^ t := by positivity
  rcases ht with rfl | ⟨rfl, rfl, hnarrow⟩
  · -- the exponent of the float
    have hzero : (t - t).toNat = 0 := by omega
    rw [hzero, Nat.pow_zero, Nat.mul_one]
    rw [← mul_assoc, mul_le_mul_iff_left₀ hpos] at hlower hupper
    rw [← mul_assoc, mul_lt_mul_iff_left₀ hpos, mul_lt_mul_iff_left₀ hpos] at hinside
    refine roundHalfEven_eq hd ?_ ?_ fun hodd => ?_
    · have : (2 * (m * d) : ℚ) ≤ 2 * n + d := by rw [hn]; nlinarith
      exact_mod_cast this
    · have : (2 * n : ℚ) ≤ 2 * (m * d) + d := by rw [hn]; nlinarith
      exact_mod_cast this
    · obtain ⟨hgt, hlt⟩ := hinside hodd
      have hgt : (2 * (m * d) : ℚ) < 2 * n + d := by rw [hn]; nlinarith
      have hlt : (2 * n : ℚ) < 2 * (m * d) + d := by rw [hn]; nlinarith
      exact ⟨by exact_mod_cast hgt, by exact_mod_cast hlt⟩
  · -- one less: the number is just below the power of two
    have hone : (t + 1 - t).toNat = 1 := by omega
    rw [hone, Nat.pow_one]
    rw [reach, if_pos ⟨rfl, hnarrow⟩, zpow_add_one₀ two_ne_zero, mul_comm ((2 : ℚ) ^ t), ← mul_assoc, ← mul_assoc,
      mul_le_mul_iff_left₀ hpos] at hlower
    rw [zpow_add₀ two_ne_zero, mul_comm ((2 : ℚ) ^ t), mul_lt_mul_iff_left₀ hpos] at hbelow
    push_cast at hlower
    refine roundHalfEven_eq hd ?_ ?_ fun hodd => absurd hodd (by decide)
    · have : (2 * (2 ^ 52 * 2 * d) : ℚ) ≤ 2 * n + d := by rw [hn]; nlinarith
      exact_mod_cast this
    · have : (2 * n : ℚ) ≤ 2 * (2 ^ 52 * 2 * d) + d := by rw [hn]; nlinarith
      exact_mod_cast this

/-! ## Rounding -/

/-- The rest of a division is told by its accuracy. -/
theorem shiftedOut_ofFraction (n : Nat) {d : Nat} (hd : 0 < d) :
    ShiftedOut (ExtendedMantissa.ofMantissaAndAccuracy (n / d) (accuracyOfFraction (n % d) d)) n d := by
  rw [accuracyOfFraction]
  split
  · next hzero =>
    constructor
    · rfl
    · exact iff_of_false Bool.false_ne_true (by omega)
    · exact iff_of_false Bool.false_ne_true (by omega)
  · next hrest =>
    cases hcompare : compare (2 * (n % d)) d with
    | lt =>
      have := Nat.compare_eq_lt.1 hcompare
      constructor
      · rfl
      · exact iff_of_false Bool.false_ne_true (by omega)
      · exact iff_of_true rfl (by omega)
    | eq =>
      have := Nat.compare_eq_eq.1 hcompare
      constructor
      · rfl
      · exact iff_of_true rfl (by omega)
      · exact iff_of_false Bool.false_ne_true (by omega)
    | gt =>
      have := Nat.compare_eq_gt.1 hcompare
      constructor
      · rfl
      · exact iff_of_true rfl (by omega)
      · exact iff_of_true rfl (by omega)

/-- A stored float is not shifted any more. -/
theorem shiftToTargetExponent_stored (h : Stored m e) (i : Nat) (hi : i = 0 ∨ Normal m e) :
    shiftToTargetExponent .binary64 (m * 2 ^ i) (e - i) .exact = (⟨m, false, false⟩, e) := by
  rcases h.normal_or_short with hnormal | ⟨hshort, rfl⟩
  · exact shiftToTargetExponent_exact hnormal i
  · obtain rfl : i = 0 := hi.resolve_right fun hnormal => by have := hnormal.lower; omega
    have hlog : m.log2 ≤ 52 := log2_le_of_lt hshort
    have htarget : Format.binary64.targetExponent (totalExponent m (-1074)) = -1074 := by
      simp only [Format.targetExponent, totalExponent, Format.mantissaBits, Format.minExponent]
      omega
    rw [Nat.pow_zero, Nat.mul_one, Int.natCast_zero, Int.sub_zero]
    simp only [shiftToTargetExponent, htarget, shiftToExponent, ExtendedMantissa.ofMantissaAndAccuracy]
    rfl

/-- How large a number is by its integer part: it is below the power of two that the rounding aims at, and unless the
exponent is the least one, it has as many digits as fit. -/
theorem bounds_of_target {n d : Nat} {start : Int} (hd : 0 < d)
    (ht : Format.binary64.targetExponent (totalExponent (n / d) start) = t) (hstart : start ≤ t) :
    -1074 ≤ t ∧ (n : ℚ) / d * 2 ^ start < 2 ^ (t + 53) ∧
      (t = -1074 ∨ (2 : ℚ) ^ (t + 52) ≤ n / d * 2 ^ start) := by
  have hdpos : (0 : ℚ) < d := Nat.cast_pos.2 hd
  have htarget : t = max (((n / d).log2 : Int) + 1 + start - 53) (-1074) := by
    rw [← ht]
    rfl
  refine ⟨by omega, ?_, ?_⟩
  · have hlog : n < 2 ^ ((n / d).log2 + 1) * d := (Nat.div_lt_iff_lt_mul hd).1 Nat.lt_log2_self
    have hlog : (n : ℚ) / d < 2 ^ ((n / d).log2 + 1) := by
      rw [div_lt_iff₀ hdpos]
      exact_mod_cast hlog
    calc (n : ℚ) / d * 2 ^ start < 2 ^ ((n / d).log2 + 1) * 2 ^ start := by gcongr
      _ = 2 ^ (((n / d).log2 + 1 : ℕ) + start) := by rw [zpow_add₀ two_ne_zero, zpow_natCast]
      _ ≤ 2 ^ (t + 53) := zpow_le_zpow_right₀ (by norm_num) (by push_cast; omega)
  · by_cases hleast : t = -1074
    · exact .inl hleast
    · have hne : n / d ≠ 0 := by
        intro hzero
        rw [hzero, Nat.log2_zero] at htarget
        omega
      have hlog : 2 ^ (n / d).log2 * d ≤ n := (Nat.le_div_iff_mul_le hd).1 (Nat.log2_self_le hne)
      have hlog : (2 : ℚ) ^ (n / d).log2 ≤ n / d := by
        rw [le_div_iff₀ hdpos]
        exact_mod_cast hlog
      refine .inr ?_
      calc (2 : ℚ) ^ (t + 52) = 2 ^ (n / d).log2 * 2 ^ start := by
            rw [← zpow_natCast, ← zpow_add₀ two_ne_zero]
            congr 1
            omega
        _ ≤ n / d * 2 ^ start := by gcongr

/-- **A number that lies around a float is rounded to it**, from any exponent below that of the last digit. -/
theorem roundWithAccuracy_eq {n d : Nat} {start : Int} (h : Stored m e) (hd : 0 < d)
    (hq : RoundsTo m e (n / d * 2 ^ start))
    (hstart : start ≤ Format.binary64.targetExponent (totalExponent (n / d) start)) (s : Sign) :
    roundWithAccuracy .binary64 s (n / d) start (accuracyOfFraction (n % d) d) = .finite s m e h.pos := by
  generalize ht : Format.binary64.targetExponent (totalExponent (n / d) start) = t at hstart
  obtain ⟨hleast, hbelow, habove⟩ := bounds_of_target hd ht hstart
  have hexponent := hq.exponent h hleast hbelow habove
  obtain ⟨j, rfl⟩ := Int.le.dest hstart
  -- The digits below the last one are shifted out.
  have hdj : 0 < d * 2 ^ j := Nat.mul_pos hd (Nat.two_pow_pos j)
  have hnumber : (n : ℚ) / d * 2 ^ start = n / (d * 2 ^ j : ℕ) * 2 ^ (start + j) := by
    rw [zpow_add₀ two_ne_zero, zpow_natCast]
    push_cast
    field_simp
  rw [hnumber] at hq hbelow
  have hfirst : shiftToTargetExponent .binary64 (n / d) start (accuracyOfFraction (n % d) d) =
      (ExtendedMantissa.ofMantissaAndAccuracy (n / d) (accuracyOfFraction (n % d) d) >>> j, start + j) := by
    have hj : (start + (j : Int) - start).toNat = j := by omega
    simp only [shiftToTargetExponent, ht, shiftToExponent, hj]
  have hrounded := (((shiftedOut_ofFraction n hd).shiftRight hd j).roundedMantissa hdj).trans
    (hq.roundHalfEven hdj hexponent hbelow)
  -- What is left is the mantissa, with a zero behind it if the exponent was one less.
  have hagain : shiftToTargetExponent .binary64 (m * 2 ^ (e - (start + j)).toNat) (start + j) .exact =
      (⟨m, false, false⟩, e) := by
    have hcarry : (e - (start + j)).toNat = 0 ∨ Normal m e := by
      rcases h.normal_or_short with hnormal | ⟨hshort, -⟩
      · exact .inr hnormal
      · exact .inl (by omega)
    have hback : e - ((e - (start + j)).toNat : Int) = start + j := by omega
    have := shiftToTargetExponent_stored h _ hcarry
    rwa [hback] at this
  simp only [roundWithAccuracy, hfirst, hrounded, hagain, dif_neg (Nat.pos_iff_ne_zero.1 h.pos)]

/-! ## Products and quotients -/

variable {m₁ m₂ : Nat} {e₁ e₂ : Int}

/-- The product of two floats, if its mantissa has no digits too few. -/
theorem mul_eq (h : Stored m e) (h₁ : 0 < m₁) (h₂ : 0 < m₂) (hlong : 2 ^ 52 ≤ m₁ * m₂)
    (hq : RoundsTo m e (m₁ * 2 ^ e₁ * (m₂ * 2 ^ e₂))) :
    UnpackedFloat.mul .binary64 (.finite .positive m₁ e₁ h₁) (.finite .positive m₂ e₂ h₂) =
      .finite .positive m e h.pos := by
  have hnumber : (m₁ * 2 ^ e₁ * (m₂ * 2 ^ e₂) : ℚ) = (m₁ * m₂ : ℕ) / (1 : ℕ) * 2 ^ (e₁ + e₂) := by
    rw [zpow_add₀ two_ne_zero]
    push_cast
    ring
  have hlog : 52 ≤ (m₁ * m₂).log2 := (Nat.le_log2 (by omega)).2 hlong
  have htarget : e₁ + e₂ ≤ Format.binary64.targetExponent (totalExponent (m₁ * m₂ / 1) (e₁ + e₂)) := by
    simp only [Format.targetExponent, totalExponent, Format.mantissaBits, Nat.div_one]
    omega
  rw [hnumber] at hq
  have hround := roundWithAccuracy_eq h Nat.one_pos hq htarget .positive
  rw [Nat.div_one, Nat.mod_one] at hround
  exact hround

/-- The quotient of two floats. -/
theorem div_eq (h : Stored m e) (h₁ : 0 < m₁) (h₂ : 0 < m₂) (hq : RoundsTo m e (m₁ * 2 ^ e₁ / (m₂ * 2 ^ e₂))) :
    UnpackedFloat.div .binary64 (.finite .positive m₁ e₁ h₁) (.finite .positive m₂ e₂ h₂) =
      .finite .positive m e h.pos := by
  simp only [UnpackedFloat.div, divCore]
  generalize hstart : min (e₁ - e₂) (Format.binary64.targetExponent (totalExponent m₁ e₁ - totalExponent m₂ e₂)) =
    start
  obtain ⟨j, hj⟩ : ∃ j : Nat, e₁ - e₂ = start + j := ⟨(e₁ - e₂ - start).toNat, by omega⟩
  have hshift : (e₁ - e₂ - start).toNat = j := by omega
  have hpos : (0 : ℚ) < m₂ := Nat.cast_pos.2 h₂
  have hnumber : (m₁ * 2 ^ e₁ / (m₂ * 2 ^ e₂) : ℚ) = (m₁ * 2 ^ j : ℕ) / m₂ * 2 ^ start := by
    have he : (2 : ℚ) ^ e₁ = 2 ^ start * 2 ^ j * 2 ^ e₂ := by
      rw [← zpow_natCast, ← zpow_add₀ two_ne_zero, ← zpow_add₀ two_ne_zero]
      congr 1
      omega
    rw [he]
    push_cast
    field_simp
  have htarget : start ≤ Format.binary64.targetExponent (totalExponent (m₁ * 2 ^ j / m₂) start) := by
    simp only [Format.targetExponent, totalExponent, Format.mantissaBits, Format.minExponent] at hstart ⊢
    by_cases hleast : start ≤ -1074
    · omega
    · -- the dividend is given so many digits that the quotient has enough
      have hlong : m₂.log2 + 53 ≤ m₁.log2 + j := by omega
      have hquotient : 2 ^ 52 ≤ m₁ * 2 ^ j / m₂ := by
        rw [Nat.le_div_iff_mul_le h₂]
        calc 2 ^ 52 * m₂ ≤ 2 ^ 52 * 2 ^ (m₂.log2 + 1) := Nat.mul_le_mul_left _ (Nat.le_of_lt Nat.lt_log2_self)
          _ = 2 ^ (m₂.log2 + 53) := by rw [← Nat.pow_add]; congr 1; omega
          _ ≤ 2 ^ (m₁.log2 + j) := Nat.pow_le_pow_right (by decide) hlong
          _ = 2 ^ m₁.log2 * 2 ^ j := Nat.pow_add _ _ _
          _ ≤ m₁ * 2 ^ j := Nat.mul_le_mul_right _ (Nat.log2_self_le h₁.ne')
      have hlog : 52 ≤ (m₁ * 2 ^ j / m₂).log2 := (Nat.le_log2 (by omega)).2 hquotient
      omega
  rw [hshift, Nat.shiftLeft_eq]
  rw [hnumber] at hq
  exact roundWithAccuracy_eq h h₂ hq htarget .positive

end Place

end LiveForm

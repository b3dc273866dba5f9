import LiveForm.Proofs.Decimal.Value

/-!
# The float nearest to an integer

A word is read as the float that is nearest to it. Said in integers: it is rounded to 53 binary digits, and
halfway between two it goes to the one whose last digit is even (`nearest`). This is what the shifts of a
mantissa come to, which carry along no more than two bits of what they have dropped (`ShiftedOut`).

So an integer of at most 53 digits is its own float (`nearest_of_le`), and no integer moves by more than half of
the unit it is rounded to (`nearest_dist`).
-/

namespace LiveForm

/-- `n / d` rounded to an integer, and halfway between two to the even one. -/
def roundHalfEven (n d : Nat) : Nat :=
  if 2 * (n % d) < d then n / d
  else if d < 2 * (n % d) then n / d + 1
  else n / d + n / d % 2

/-- The unit that integers of this size are rounded to. -/
def unitOf (n : Nat) : Nat := 2 ^ (n.log2 - 52)

/-- An integer rounded to 53 binary digits. -/
def nearest (n : Nat) : Nat := roundHalfEven n (unitOf n) * unitOf n

/-! ## Rounding in integers -/

theorem unitOf_pos (n : Nat) : 0 < unitOf n := Nat.two_pow_pos _

theorem roundHalfEven_of_dvd {n d : Nat} (hd : 0 < d) (h : d ∣ n) : roundHalfEven n d = n / d := by
  rw [roundHalfEven, Nat.mod_eq_zero_of_dvd h, if_pos hd]

theorem roundHalfEven_bounds (n d : Nat) : n / d ≤ roundHalfEven n d ∧ roundHalfEven n d ≤ n / d + 1 := by
  rw [roundHalfEven]
  split
  · omega
  · split <;> omega

theorem nearest_of_dvd {n : Nat} (h : unitOf n ∣ n) : nearest n = n := by
  rw [nearest, roundHalfEven_of_dvd (unitOf_pos n) h, Nat.div_mul_cancel h]

/-- Integers of at most 53 binary digits are not rounded. -/
theorem nearest_of_le {n : Nat} (h : n ≤ 2 ^ 53) : nearest n = n := by
  refine nearest_of_dvd ?_
  rcases Nat.lt_or_eq_of_le h with hlt | rfl
  · have hlog : n.log2 ≤ 52 := by
      by_cases hn : n = 0
      · rw [hn, Nat.log2_zero]
        exact Nat.zero_le 52
      · exact Nat.lt_succ_iff.1 ((Nat.log2_lt hn).2 hlt)
    rw [unitOf, Nat.sub_eq_zero_of_le hlog]
    exact Nat.one_dvd n
  · decide

/-- Rounding moves an integer by no more than half of the unit. -/
theorem nearest_dist (n : Nat) :
    2 * nearest n ≤ 2 * n + unitOf n ∧ 2 * n ≤ 2 * nearest n + unitOf n := by
  have hdiv : n / unitOf n * unitOf n + n % unitOf n = n := Nat.div_add_mod' n (unitOf n)
  have hlt : n % unitOf n < unitOf n := Nat.mod_lt n (unitOf_pos n)
  rw [nearest, roundHalfEven]
  generalize unitOf n = unit at *
  split
  · omega
  · split
    · rw [Nat.add_mul, Nat.one_mul]
      omega
    · rcases Nat.mod_two_eq_zero_or_one (n / unit) with heven | hodd
      · rw [heven, Nat.add_zero]
        omega
      · rw [hodd, Nat.add_mul, Nat.one_mul]
        omega

/-! ## Shifts -/

namespace Place

open Float.Model Float.Model.UnpackedFloat

/-- A mantissa `n` of which the digits below the unit `d` have been shifted out: how the rest compares with half
the unit is told by the two bits. -/
structure ShiftedOut (em : ExtendedMantissa) (n d : Nat) : Prop where
  mantissa : em.mantissa = n / d
  roundBit : em.roundBit = true ↔ d ≤ 2 * (n % d)
  stickyBit : em.stickyBit = true ↔ n % d ≠ 0 ∧ 2 * (n % d) ≠ d

theorem ShiftedOut.exact (n : Nat) : ShiftedOut ⟨n, false, false⟩ n 1 := by
  constructor <;> simp [Nat.mod_one]

/-- One digit more. -/
theorem ShiftedOut.shiftRightOne {em : ExtendedMantissa} {n d : Nat} (h : ShiftedOut em n d) (hd : 0 < d) :
    ShiftedOut em.shiftRightOne n (d * 2) := by
  obtain ⟨hmantissa, hround, hsticky⟩ := h
  have hlt : n % d < d := Nat.mod_lt n hd
  have hdigit := Nat.mod_two_eq_zero_or_one (n / d)
  constructor
  · show em.mantissa / 2 = _
    rw [hmantissa, Nat.div_div_eq_div_mul]
  · show (em.mantissa % 2 != 0) = true ↔ _
    rw [hmantissa, Nat.mod_mul, bne_iff_ne]
    rcases hdigit with hdigit | hdigit <;> rw [hdigit] <;> omega
  · show (em.roundBit || em.stickyBit) = true ↔ _
    rw [Bool.or_eq_true, hround, hsticky, Nat.mod_mul]
    rcases hdigit with hdigit | hdigit <;> rw [hdigit] <;> omega

/-- As many digits more. -/
theorem ShiftedOut.shiftRight {em : ExtendedMantissa} {n d : Nat} (h : ShiftedOut em n d) (hd : 0 < d) (j : Nat) :
    ShiftedOut (em >>> j) n (d * 2 ^ j) := by
  show ShiftedOut (j.repeat ExtendedMantissa.shiftRightOne em) n (d * 2 ^ j)
  induction j with
  | zero => rwa [Nat.pow_zero, Nat.mul_one]
  | succ j ih =>
    rw [Nat.repeat, Nat.pow_succ, ← Nat.mul_assoc]
    exact ih.shiftRightOne (Nat.mul_pos hd (Nat.two_pow_pos j))

/-- **The two bits are enough** to round. -/
theorem ShiftedOut.roundedMantissa {em : ExtendedMantissa} {n d : Nat} (h : ShiftedOut em n d) (hd : 0 < d) :
    em.roundedMantissa = roundHalfEven n d := by
  obtain ⟨m, roundBit, stickyBit⟩ := em
  obtain ⟨hmantissa, hround, hsticky⟩ := h
  have hmantissa : m = n / d := hmantissa
  rw [roundHalfEven, ← hmantissa]
  cases roundBit <;> cases stickyBit <;>
    simp only [ExtendedMantissa.roundedMantissa, ExtendedMantissa.accuracy, Accuracy.roundToNearestEven,
      Bool.false_eq_true, false_iff, true_iff] at hround hsticky ⊢
  · rw [if_pos (by omega)]
  · rw [if_pos (by omega)]
  · rw [if_neg (by omega), if_neg (by omega)]
  · rw [if_neg (by omega), if_pos (by omega)]

/-! ## Words -/

/-- Digits that are shifted out and rounded to 53 leave a normal float. -/
theorem exists_normal {k j : Nat} (hlog : k.log2 = 52 + j) (hj : j ≤ 900) :
    ∃ m i, Normal m (j + i : Nat) ∧ roundHalfEven k (2 ^ j) = m * 2 ^ i := by
  have hne : k ≠ 0 := by
    rintro rfl
    rw [Nat.log2_zero] at hlog
    omega
  obtain ⟨hlower, hupper⟩ := (Nat.log2_eq_iff hne).1 hlog
  have hquotient : 2 ^ 52 ≤ k / 2 ^ j ∧ k / 2 ^ j < 2 ^ 53 := by
    rw [Nat.le_div_iff_mul_le (Nat.two_pow_pos j), Nat.div_lt_iff_lt_mul (Nat.two_pow_pos j), ← Nat.pow_add,
      ← Nat.pow_add]
    exact ⟨hlower, by rwa [Nat.add_right_comm] at hupper⟩
  obtain ⟨hl, hu⟩ := roundHalfEven_bounds k (2 ^ j)
  generalize roundHalfEven k (2 ^ j) = r at hl hu ⊢
  by_cases hcarry : r < 2 ^ 53
  · exact ⟨r, 0, ⟨by omega, hcarry, by omega, by omega⟩, (Nat.mul_one r).symm⟩
  · -- a carry makes it one digit longer, and the last digit is zero
    exact ⟨2 ^ 52, 1, ⟨Nat.le_refl _, by decide, by omega, by omega⟩, by omega⟩

/-- An integer of more than 53 digits is shifted to them, rounded, and shifted once more after a carry. -/
theorem round_of_long {k j m i : Nat} (hlog : k.log2 = 52 + j) (h : Normal m (j + i : Nat))
    (hround : roundHalfEven k (2 ^ j) = m * 2 ^ i) (s : Sign) :
    round .binary64 s k 0 = .finite s m (j + i : Nat) h.pos := by
  have htarget : Format.binary64.targetExponent (totalExponent k 0) = j := by
    simp only [Format.targetExponent, totalExponent, Format.mantissaBits, Format.minExponent]
    omega
  have hfirst : shiftToTargetExponent .binary64 k 0 .exact =
      ((⟨k, false, false⟩ : ExtendedMantissa) >>> j, (j : Int)) := by
    simp only [shiftToTargetExponent, htarget, shiftToExponent, ExtendedMantissa.ofMantissaAndAccuracy,
      Int.sub_zero, Int.toNat_natCast, Int.zero_add]
  have hshifted : ShiftedOut ((⟨k, false, false⟩ : ExtendedMantissa) >>> j) k (2 ^ j) := by
    have := (ShiftedOut.exact k).shiftRight Nat.one_pos j
    rwa [Nat.one_mul] at this
  have hrounded : ((⟨k, false, false⟩ : ExtendedMantissa) >>> j).roundedMantissa = m * 2 ^ i :=
    (hshifted.roundedMantissa (Nat.two_pow_pos j)).trans hround
  have hagain : shiftToTargetExponent .binary64 (m * 2 ^ i) j .exact =
      (⟨m, false, false⟩, ((j + i : Nat) : Int)) := by
    have := shiftToTargetExponent_exact h i
    rwa [Int.natCast_add, Int.add_sub_cancel, ← Int.natCast_add] at this
  have hdecrease : decreaseExponent k 0 j = (k, 0) := by
    have hzero : ((0 : Int) - j).toNat = 0 := by omega
    simp only [decreaseExponent, hzero, Nat.shiftLeft_zero, Int.natCast_zero, Int.sub_zero]
  simp only [UnpackedFloat.round, htarget, hdecrease, roundWithAccuracy, hfirst, hrounded, hagain,
    dif_neg (Nat.pos_iff_ne_zero.1 h.pos)]

/-- **A word is rounded** to the number that is nearest. -/
theorem exists_round {k : Nat} (hpos : 0 < k) (hword : k < 2 ^ 64) :
    ∃ m e, ∃ h : Normal m e, (∀ s, round .binary64 s k 0 = .finite s m e h.pos) ∧
      (m : ℚ) * 2 ^ e = nearest k := by
  have hne : k ≠ 0 := Nat.pos_iff_ne_zero.1 hpos
  have hlog : k.log2 < 64 := (Nat.log2_lt hne).2 hword
  by_cases hsmall : k.log2 ≤ 52
  · -- The mantissa is filled up with zeros.
    obtain ⟨j, hj⟩ : ∃ j : Nat, k.log2 + j = 52 := ⟨52 - k.log2, by omega⟩
    have hnormal : Normal (k * 2 ^ j) (-j) := by
      have hfilled : (k * 2 ^ j).log2 = 52 := by rw [log2_mul_pow hne, hj]
      have hmantissa : k * 2 ^ j ≠ 0 := Nat.mul_ne_zero hne (Nat.two_pow_pos j).ne'
      obtain ⟨hlower, hupper⟩ := (Nat.log2_eq_iff hmantissa).1 hfilled
      exact ⟨hlower, hupper, by omega, by omega⟩
    have hshort : k ≤ 2 ^ 53 :=
      Nat.le_of_lt (Nat.lt_of_lt_of_le Nat.lt_log2_self (Nat.pow_le_pow_right (by decide) (by omega)))
    refine ⟨_, _, hnormal, round_eq hnormal ?_, ?_⟩
    · rw [Int.neg_neg, Int.toNat_natCast, Int.toNat_neg_natCast, Nat.pow_zero, Nat.mul_one]
    · rw [nearest_of_le hshort, zpow_neg, zpow_natCast]
      push_cast
      exact mul_inv_cancel_right₀ (by positivity) (k : ℚ)
  · obtain ⟨j, hj⟩ : ∃ j : Nat, k.log2 = 52 + j := ⟨k.log2 - 52, by omega⟩
    obtain ⟨m, i, hnormal, hround⟩ := exists_normal hj (by omega)
    refine ⟨m, _, hnormal, round_of_long hj hnormal hround, ?_⟩
    rw [nearest, unitOf, show k.log2 - 52 = j by omega, hround, zpow_natCast]
    push_cast
    ring

/-- The float of a word is the number nearest to it. -/
theorem floatValue_toFloat {k : Nat} (hpos : 0 < k) (hword : k < 2 ^ 64) :
    floatValue k.toUInt64.toFloat = nearest k := by
  obtain ⟨m, e, hnormal, hround, hvalue⟩ := exists_round hpos hword
  rw [floatValue_of_positive (unpack_toFloat_of_round hnormal hpos hword (hround .positive)), hvalue]

theorem floatValue_neg_toFloat {k : Nat} (hpos : 0 < k) (hword : k < 2 ^ 64) :
    floatValue (-k.toUInt64.toFloat) = -nearest k := by
  obtain ⟨m, e, hnormal, hround, hvalue⟩ := exists_round hpos hword
  have hunpack := unpack_toFloat_of_round hnormal hpos hword (hround .positive)
  rw [floatValue_of_negative (unpack_neg hnormal hunpack), hvalue]

end Place

end LiveForm

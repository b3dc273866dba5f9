import LiveForm.Proofs.Decimal.Words
import LiveForm.Json

/-!
# Integers as floats, exactly

A float that is an integer keeps its place when it is written as that integer and read again
(`toFloat_beq`). Its mantissa has all its bits (`Normal`), as a shorter one stands for a fraction. So
rounding the integer finds the mantissa and the exponent of the float (`round_eq`), dropping only zero bits
on its way, and storing them loses nothing (`unpack_pack`).

What is known of stored floats also tells that negation leads to no infinity (`isFinite_neg`). So every
number has a finite float (`Number.isFinite_toFloat`).
-/

namespace LiveForm.Place

open Float.Model Float.Model.UnpackedFloat

/-! ## Normal floats -/

/-- A mantissa that has all its bits, and an exponent that can be stored with it. -/
structure Normal (m : Nat) (e : Int) : Prop where
  lower : 2 ^ 52 ≤ m
  upper : m < 2 ^ 53
  least : -1074 ≤ e
  greatest : e ≤ 971

theorem log2_mul_pow {k : Nat} (hk : k ≠ 0) (j : Nat) : (k * 2 ^ j).log2 = k.log2 + j := by
  induction j with
  | zero => rw [Nat.pow_zero, Nat.mul_one, Nat.add_zero]
  | succ j ih =>
    rw [Nat.pow_succ', Nat.mul_left_comm,
      Nat.log2_two_mul (Nat.mul_ne_zero hk (Nat.two_pow_pos j).ne'), ih, Nat.add_assoc]

namespace Normal

variable {m : Nat} {e : Int}

theorem pos (h : Normal m e) : 0 < m := Nat.lt_of_lt_of_le (by decide) h.lower

theorem log2 (h : Normal m e) : m.log2 = 52 :=
  (Nat.log2_eq_iff (Nat.pos_iff_ne_zero.1 h.pos)).2 ⟨h.lower, h.upper⟩

theorem log2_shifted (h : Normal m e) (j : Nat) : (m * 2 ^ j).log2 = 52 + j := by
  rw [log2_mul_pow (Nat.pos_iff_ne_zero.1 h.pos), h.log2]

/-- An integer that a normal float is, written without fractions, is not zero. -/
theorem ne_zero (h : Normal m e) {k : Nat} (hk : k * 2 ^ (-e).toNat = m * 2 ^ e.toNat) : k ≠ 0 := by
  rintro rfl
  have : 0 < m * 2 ^ e.toNat := Nat.mul_pos h.pos (Nat.two_pow_pos _)
  omega

end Normal

/-- The bit that a normal float does not store stands before its mantissa. -/
theorem toNat_append_implicit {k : Nat} (m : BitVec k) : (1#1 ++ m).toNat = 2 ^ k + m.toNat := by
  rw [BitVec.toNat_append, ← Nat.shiftLeft_add_eq_or_of_lt m.isLt, Nat.shiftLeft_eq]
  exact congrArg (· + m.toNat) (Nat.one_mul _)

/-- A stored float that is finite and not zero is normal, or its mantissa is short and its exponent the
least one. -/
theorem normal_or_short {b : BitVec Format.binary64.numBits} {s : Sign} {m : Nat} {e : Int} {hm : 0 < m}
    (h : UnpackedFloat.unpack .binary64 b = .finite s m e hm) :
    Normal m e ∨ m < 2 ^ 52 ∧ e = -1074 := by
  have hmantissa : (unpackMantissa b).toNat < 2 ^ 52 := (unpackMantissa b).isLt
  have hexponent : (unpackExponent b).toNat < 2 ^ 11 := (unpackExponent b).isLt
  simp only [UnpackedFloat.unpack, Format.exponentBias] at h
  split at h
  · -- all ones: infinity or NaN
    split at h <;> cases h
  · next hones =>
    have hne : (unpackExponent b).toNat ≠ 2047 := fun heq => hones (BitVec.eq_of_toNat_eq heq)
    split at h
    · split at h
      · cases h
      · next hzero _ =>
        cases h
        refine .inr ⟨hmantissa, ?_⟩
        rw [hzero]
        rfl
    · next hzero =>
      have hpos : (unpackExponent b).toNat ≠ 0 := fun heq => hzero (BitVec.eq_of_toNat_eq heq)
      cases h
      refine .inl ?_
      have hsum : (1#1 ++ unpackMantissa b).toNat = 2 ^ 52 + (unpackMantissa b).toNat :=
        toNat_append_implicit (unpackMantissa b)
      rw [hsum]
      constructor <;> omega

/-- **Storing a normal float loses nothing.** -/
theorem unpack_pack (s : Sign) {m : Nat} {e : Int} (h : Normal m e) :
    UnpackedFloat.unpack .binary64 (UnpackedFloat.pack .binary64 (.finite s m e h.pos)) =
      .finite s m e h.pos := by
  have ⟨hlower, hupper, hleast, hgreatest⟩ := h
  have hlog : m.log2 + 1 = Format.binary64.mantissaBits := by
    rw [h.log2]
    rfl
  have hbiased : (e + Format.binary64.exponentBias + Format.binary64.mantissaBitsWithoutImplicit).toNat =
      (e + 1075).toNat := by
    simp only [Format.exponentBias]
    omega
  have hfits : ¬2 ^ Format.binary64.exponentBits ≤ (e + 1075).toNat + 1 := by
    show ¬2 ^ 11 ≤ (e + 1075).toNat + 1
    omega
  have hexponent : (BitVec.ofNat 11 (e + 1075).toNat).toNat = (e + 1075).toNat := by
    rw [BitVec.toNat_ofNat, Nat.mod_eq_of_lt (by omega)]
  -- So the exponent is not mistaken for that of infinity, nor for that of a short mantissa.
  have hones : BitVec.ofNat 11 (e + 1075).toNat ≠ -1#11 := by
    intro heq
    have : (e + 1075).toNat = 2047 := hexponent.symm.trans (congrArg BitVec.toNat heq)
    omega
  have hzero : BitVec.ofNat 11 (e + 1075).toNat ≠ 0#11 := by
    intro heq
    have : (e + 1075).toNat = 0 := hexponent.symm.trans (congrArg BitVec.toNat heq)
    omega
  have hmantissa : (1#1 ++ BitVec.ofNat 52 m).toNat = m := by
    rw [toNat_append_implicit, BitVec.toNat_ofNat]
    omega
  simp only [UnpackedFloat.pack, hbiased, if_neg hfits, if_pos hlog]
  simp only [UnpackedFloat.unpack, unpackMantissa_packComponents, unpackExponent_packComponents,
    unpackSign_packComponents, Sign.ofBitVec_toBitVec, if_neg hones, if_neg hzero, hmantissa, hexponent]
  congr 1
  simp only [Format.exponentBias]
  omega

/-! ## Rounding integers -/

/-- Shifting out zero bits is exact. -/
theorem shiftRight_mul_pow (m j : Nat) :
    (⟨m * 2 ^ j, false, false⟩ : ExtendedMantissa) >>> j = ⟨m, false, false⟩ := by
  show j.repeat ExtendedMantissa.shiftRightOne _ = _
  induction j generalizing m with
  | zero => rw [Nat.pow_zero, Nat.mul_one]; rfl
  | succ j ih =>
    rw [Nat.repeat, Nat.pow_succ', ← Nat.mul_assoc, ih]
    simp [ExtendedMantissa.shiftRightOne]

/-- A normal mantissa with zero bits behind it is shifted to where it was. -/
theorem shiftToTargetExponent_exact {m : Nat} {e : Int} (h : Normal m e) (j : Nat) :
    shiftToTargetExponent .binary64 (m * 2 ^ j) (e - j) .exact = (⟨m, false, false⟩, e) := by
  have htarget : Format.binary64.targetExponent (totalExponent (m * 2 ^ j) (e - j)) = e := by
    have := h.least
    simp only [Format.targetExponent, totalExponent, h.log2_shifted, Format.mantissaBits,
      Format.minExponent]
    omega
  have hshift : (e - (e - (j : Int))).toNat = j := by omega
  simp only [shiftToTargetExponent, htarget, shiftToExponent, hshift,
    ExtendedMantissa.ofMantissaAndAccuracy, shiftRight_mul_pow, Int.sub_add_cancel]

theorem roundWithAccuracy_exact {m : Nat} {e : Int} (h : Normal m e) (s : Sign) (j : Nat) :
    roundWithAccuracy .binary64 s (m * 2 ^ j) (e - j) .exact = .finite s m e h.pos := by
  have hagain : shiftToTargetExponent .binary64 m e .exact = (⟨m, false, false⟩, e) := by
    have := shiftToTargetExponent_exact h 0
    rwa [Nat.pow_zero, Nat.mul_one, Int.natCast_zero, Int.sub_zero] at this
  have hrounded : (⟨m, false, false⟩ : ExtendedMantissa).roundedMantissa = m := rfl
  simp only [roundWithAccuracy, shiftToTargetExponent_exact h, hrounded, hagain,
    dif_neg (Nat.pos_iff_ne_zero.1 h.pos)]

/-- **Rounding an integer that a normal float is** finds its mantissa and its exponent. -/
theorem round_eq {m k : Nat} {e : Int} (h : Normal m e) (hk : k * 2 ^ (-e).toNat = m * 2 ^ e.toNat)
    (s : Sign) : round .binary64 s k 0 = .finite s m e h.pos := by
  have hlog : k.log2 + (-e).toNat = 52 + e.toNat := by
    rw [← log2_mul_pow (h.ne_zero hk), hk, h.log2_shifted]
  have htarget : Format.binary64.targetExponent (totalExponent k 0) = e := by
    have := h.least
    simp only [Format.targetExponent, totalExponent, Format.mantissaBits, Format.minExponent]
    omega
  -- The mantissa is shifted the one way or the other, by the sign of the exponent.
  have hexponent : -((-e).toNat : Int) = e - e.toNat := by omega
  simp only [UnpackedFloat.round, htarget, decreaseExponent, Nat.shiftLeft_eq, Int.zero_sub, hk, hexponent]
  exact roundWithAccuracy_exact h s e.toNat

/-- The float of a word that is rounded to a normal float. -/
theorem unpack_toFloat_of_round {m k : Nat} {e : Int} (h : Normal m e) (hpos : 0 < k) (hword : k < 2 ^ 64)
    (hround : round .binary64 .positive k 0 = .finite .positive m e h.pos) :
    k.toUInt64.toFloat.toModel.unpack = .finite .positive m e h.pos := by
  have htoNat : k.toUInt64.toNat = k := Nat.mod_eq_of_lt hword
  show UnpackedFloat.unpack .binary64 (UnpackedFloat.pack .binary64
    (normalize .binary64 k.toUInt64.toNat 0 .positive)) = _
  have hcompare : compare (k : Int) 0 = .gt := Int.compare_eq_gt.2 (Int.natCast_pos.2 hpos)
  rw [htoNat, UnpackedFloat.normalize, hcompare]
  show UnpackedFloat.unpack .binary64 (UnpackedFloat.pack .binary64 (round .binary64 .positive k 0)) = _
  rw [hround, unpack_pack .positive h]

/-- The float of a word that a normal float is. -/
theorem unpack_toFloat {m k : Nat} {e : Int} (h : Normal m e)
    (hk : k * 2 ^ (-e).toNat = m * 2 ^ e.toNat) (hword : k < 2 ^ 64) :
    k.toUInt64.toFloat.toModel.unpack = .finite .positive m e h.pos :=
  unpack_toFloat_of_round h (Nat.pos_of_ne_zero (h.ne_zero hk)) hword (round_eq h hk .positive)

/-! ## Negation -/

theorem unpack_neg {m : Nat} {e : Int} (h : Normal m e) {s : Sign} {x : Float}
    (hx : x.toModel.unpack = .finite s m e h.pos) :
    (-x).toModel.unpack = .finite (-s) m e h.pos := by
  show UnpackedFloat.unpack .binary64 (UnpackedFloat.pack .binary64 x.toModel.unpack.neg) = _
  rw [hx]
  exact unpack_pack (-s) h

/-- A finite float stays finite when it is negated. -/
theorem isFinite_neg {x : Float} (h : x.isFinite = true) : (-x).isFinite = true := by
  have hx : x.toModel.unpack.isFinite = true := h
  show (UnpackedFloat.unpack .binary64 (UnpackedFloat.pack .binary64 x.toModel.unpack.neg)).isFinite = true
  cases hunpack : x.toModel.unpack with
  | notANumber => rw [hunpack] at hx; cases hx
  | infinity s => rw [hunpack] at hx; cases hx
  | zero s =>
    show (UnpackedFloat.unpack .binary64 (packedZero .binary64 (-s))).isFinite = true
    rw [unpack_packedZero]
    rfl
  | finite s m e hm =>
    have he : e ≤ 971 := by
      rcases normal_or_short hunpack with hnormal | ⟨-, rfl⟩
      · exact hnormal.greatest
      · decide
    exact isFinite_unpack_pack hm he

end LiveForm.Place

namespace LiveForm

open Float.Model Float.Model.UnpackedFloat Place

/-! ## Integers that floats are -/

/-- Where nothing follows the binary point, the integer part is all. -/
theorem Binary.floorAbs_mul {b : Binary} (h : b.isIntegral = true) :
    b.floorAbs * 2 ^ (-b.exponent).toNat = b.mantissa * 2 ^ b.exponent.toNat := by
  rw [isIntegral, Bool.or_eq_true, decide_eq_true_iff, beq_iff_eq] at h
  by_cases he : 0 ≤ b.exponent
  · rw [floorAbs, if_pos he, Int.toNat_eq_zero.2 (by omega : -b.exponent ≤ 0), Nat.pow_zero, Nat.mul_one]
  · have hdvd := h.resolve_left he
    rw [floorAbs, if_neg he, Int.toNat_eq_zero.2 (by omega : b.exponent ≤ 0), Nat.pow_zero, Nat.mul_one]
    exact Nat.div_mul_cancel (Nat.dvd_of_mod_eq_zero hdvd)

/-- A short mantissa stands for a fraction. -/
theorem Binary.not_integral_of_short {b : Binary} (hpos : 0 < b.mantissa) (hm : b.mantissa < 2 ^ 52)
    (he : b.exponent = -1074) : b.isIntegral = false := by
  have hlt : b.mantissa < 2 ^ (-b.exponent).toNat := by
    rw [he]
    exact Nat.lt_of_lt_of_le hm (Nat.pow_le_pow_right (by decide) (by decide))
  rw [isIntegral, Nat.mod_eq_of_lt hlt, he]
  simpa using Nat.pos_iff_ne_zero.1 hpos

theorem Number.toFloat_natCast {k : Nat} (h : InWordRange k) :
    (Number.int k h).toFloat = k.toUInt64.toFloat := by
  rw [toFloat, if_pos (Int.natCast_nonneg k), Int.toNat_natCast]

theorem Number.toFloat_neg {k : Nat} (hk : 0 < k) (h : InWordRange (-k)) :
    (Number.int (-k) h).toFloat = -k.toUInt64.toFloat := by
  rw [toFloat, if_neg (by omega), Int.neg_neg, Int.toNat_natCast]

/-- The magnitude of an integer that a float is. The float is normal. -/
theorem exists_magnitude (negative : Bool) {m : Nat} {e n : Int}
    (hstored : Normal m e ∨ m < 2 ^ 52 ∧ e = -1074) (hpos : 0 < m)
    (h : Binary.toInt? ⟨negative, m, e⟩ = some n) :
    ∃ k : Nat, Normal m e ∧ k * 2 ^ (-e).toNat = m * 2 ^ e.toNat ∧
      n = if negative then -(k : Int) else k := by
  rw [Binary.toInt?, Option.ite_none_right_eq_some] at h
  obtain ⟨hintegral, htruncate⟩ := h
  refine ⟨_, ?_, Binary.floorAbs_mul hintegral, (Option.some.inj htruncate).symm⟩
  rcases hstored with hnormal | ⟨hshort, hexponent⟩
  · exact hnormal
  · -- a short mantissa is no integer
    rw [Binary.not_integral_of_short hpos hshort hexponent] at hintegral
    cases hintegral

/-- **An integer that a float is** has that float's place. -/
theorem toFloat_beq {x : Float} {n : Int} (h : (Binary.ofFloat? x).bind Binary.toInt? = some n)
    (hn : InWordRange n) : ((Number.int n hn).toFloat == x) = true := by
  rw [beq_iff_place, ofFloat?, ofFloat?]
  rw [Binary.ofFloat?] at h
  cases hx : x.toModel.unpack with
  | notANumber => rw [hx] at h; cases h
  | infinity s => rw [hx] at h; cases h
  | zero s =>
    rw [hx] at h
    obtain rfl : n = 0 := by cases s <;> exact (Option.some.inj h).symm
    -- both zeros are at one place
    refine ⟨(0, 0, 0), ?_, rfl⟩
    show of? (UnpackedFloat.unpack .binary64 (packedZero .binary64 .positive)) = _
    rw [unpack_packedZero]
    rfl
  | finite s m e hm =>
    rw [hx] at h
    have hstored := normal_or_short hx
    cases s with
    | positive =>
      obtain ⟨k, hnormal, hk, hsign⟩ := exists_magnitude false hstored hm h
      obtain rfl : n = k := hsign
      refine ⟨(1, e, m), ?_, rfl⟩
      rw [Number.toFloat_natCast hn, unpack_toFloat hnormal hk (Int.ofNat_lt.1 hn.2)]
      rfl
    | negative =>
      obtain ⟨k, hnormal, hk, hsign⟩ := exists_magnitude true hstored hm h
      obtain rfl : n = -k := hsign
      have hword : k < 2 ^ 64 := by
        have := hn.1
        omega
      refine ⟨(-1, -e, -m), ?_, rfl⟩
      rw [Number.toFloat_neg (Nat.pos_of_ne_zero (hnormal.ne_zero hk)) hn,
        unpack_neg hnormal (unpack_toFloat hnormal hk hword)]
      rfl

/-! ## Numbers -/

theorem Json.ofFloat_of_isFinite {x : Float} (h : x.isFinite = true) :
    Json.ofFloat x = .num (.real x h) := by
  rw [Json.ofFloat, Number.ofFloat?, dif_pos h]

/-- The float of a number is finite. -/
theorem Number.isFinite_toFloat (n : Number) : n.toFloat.isFinite = true := by
  cases n with
  | real x hx => exact hx
  | int n hn =>
    rw [toFloat]
    split
    · exact Place.isFinite_toFloat _
    · exact isFinite_neg (Place.isFinite_toFloat _)

end LiveForm

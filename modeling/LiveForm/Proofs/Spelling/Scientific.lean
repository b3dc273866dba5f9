import LiveForm.Proofs.Spelling.Rounding
import LiveForm.Decimal.Reading

/-!
# The float nearest to a decimal

A decimal that lies around a float is read as this float (`unpack_nearest`). Short decimals are read by one
product or quotient of floats that are exact, long ones by a product or a quotient of integers; all of these are
rounded once, so they come to the float that the decimal lies around. Decimals of a size no float has are told by
their digits.

A float is known by its sign, its mantissa and its exponent (`eq_of_unpack`), as those are what it is stored with.
-/

namespace LiveForm.Place

open Float.Model Float.Model.UnpackedFloat

variable {m : Nat} {e : Int}

/-! ## Storing -/

/-- Storing a short mantissa loses nothing either. -/
theorem unpack_pack_stored (s : Sign) (h : Stored m e) :
    UnpackedFloat.unpack .binary64 (UnpackedFloat.pack .binary64 (.finite s m e h.pos)) = .finite s m e h.pos := by
  rcases h.normal_or_short with hnormal | ⟨hshort, rfl⟩
  · exact unpack_pack s hnormal
  · have hlog : ¬m.log2 + 1 = Format.binary64.mantissaBits := by
      have : m.log2 < 52 := (Nat.log2_lt h.pos.ne').2 hshort
      show ¬m.log2 + 1 = 53
      omega
    have hfits : ¬2 ^ Format.binary64.exponentBits ≤
        ((-1074 : Int) + Format.binary64.exponentBias + Format.binary64.mantissaBitsWithoutImplicit).toNat + 1 := by
      decide
    have hones : (0#11 : BitVec 11) ≠ -1#11 := by decide
    have htoNat : (BitVec.ofNat 52 m).toNat = m := by
      rw [BitVec.toNat_ofNat, Nat.mod_eq_of_lt hshort]
    have hzero : BitVec.ofNat 52 m ≠ 0#52 := by
      intro heq
      have : m = 0 := htoNat.symm.trans (congrArg BitVec.toNat heq)
      exact h.pos.ne' this
    simp only [UnpackedFloat.pack, if_neg hfits, if_neg hlog]
    simp only [UnpackedFloat.unpack, unpackMantissa_packComponents, unpackExponent_packComponents,
      unpackSign_packComponents, Sign.ofBitVec_toBitVec, if_neg hones, if_true, dif_neg hzero, htoNat]
    rfl

theorem packComponents_unpack (b : BitVec Format.binary64.numBits) :
    packComponents .binary64 (Sign.ofBitVec (unpackSign b)) (unpackExponent b) (unpackMantissa b) = b := by
  have hsign : ∀ v : BitVec 1, (Sign.ofBitVec v).toBitVec = v := by decide
  rw [packComponents, hsign]
  refine BitVec.eq_of_getLsbD_eq fun i hi => ?_
  have hi : i < 64 := hi
  simp only [BitVec.getLsbD_append, unpackSign, unpackExponent, unpackMantissa, BitVec.getLsbD_cast,
    BitVec.getLsbD_extractLsb]
  split
  · rw [decide_eq_true (by omega), Bool.true_and, Nat.zero_add]
  · split
    · rw [decide_eq_true (by omega), Bool.true_and, show 52 + (i - 52) = i by omega]
    · rw [decide_eq_true (by omega), Bool.true_and, show 52 + 11 + (i - 52 - 11) = i by omega]

/-- What a finite float other than zero is stored as. -/
theorem components_of_finite {b : BitVec Format.binary64.numBits} {s : Sign} {hm : 0 < m}
    (h : UnpackedFloat.unpack .binary64 b = .finite s m e hm) :
    Sign.ofBitVec (unpackSign b) = s ∧ (unpackExponent b).toNat = (if m < 2 ^ 52 then 0 else (e + 1075).toNat) ∧
      (unpackMantissa b).toNat = m % 2 ^ 52 := by
  have hmantissa : (unpackMantissa b).toNat < 2 ^ 52 := (unpackMantissa b).isLt
  simp only [UnpackedFloat.unpack, Format.exponentBias] at h
  split at h
  · split at h <;> cases h
  · split at h
    · next hzero =>
      split at h
      · cases h
      · cases h
        rw [if_pos hmantissa, hzero, Nat.mod_eq_of_lt hmantissa]
        exact ⟨rfl, rfl, rfl⟩
    · cases h
      have hsum : (1#1 ++ unpackMantissa b).toNat = 2 ^ 52 + (unpackMantissa b).toNat :=
        toNat_append_implicit (unpackMantissa b)
      rw [hsum, if_neg (by omega)]
      exact ⟨rfl, by omega, by omega⟩

theorem components_of_zero {b : BitVec Format.binary64.numBits} {s : Sign}
    (h : UnpackedFloat.unpack .binary64 b = .zero s) :
    Sign.ofBitVec (unpackSign b) = s ∧ unpackExponent b = 0#11 ∧ unpackMantissa b = 0#52 := by
  simp only [UnpackedFloat.unpack] at h
  split at h
  · split at h <;> cases h
  · split at h
    · next hzero =>
      split at h
      · next hnone =>
        cases h
        exact ⟨rfl, hzero, hnone⟩
      · cases h
    · cases h

theorem bits_eq_of_unpack {b c : BitVec Format.binary64.numBits}
    (h : UnpackedFloat.unpack .binary64 b = UnpackedFloat.unpack .binary64 c)
    (hb : (UnpackedFloat.unpack .binary64 b).isFinite = true) : b = c := by
  rw [← packComponents_unpack b, ← packComponents_unpack c]
  cases hunpack : UnpackedFloat.unpack .binary64 b with
  | notANumber => rw [hunpack] at hb; cases hb
  | infinity s => rw [hunpack] at hb; cases hb
  | zero s =>
    obtain ⟨hs, he, hm⟩ := components_of_zero hunpack
    obtain ⟨hs', he', hm'⟩ := components_of_zero (h.symm.trans hunpack)
    rw [hs, hs', he, he', hm, hm']
  | finite s m e hpos =>
    obtain ⟨hs, he, hm⟩ := components_of_finite hunpack
    obtain ⟨hs', he', hm'⟩ := components_of_finite (h.symm.trans hunpack)
    rw [hs, hs', BitVec.eq_of_toNat_eq (he.trans he'.symm), BitVec.eq_of_toNat_eq (hm.trans hm'.symm)]

/-- **A finite float is known** by what it is stored with. -/
theorem eq_of_unpack {x y : Float} (h : x.toModel.unpack = y.toModel.unpack) (hx : x.isFinite = true) : x = y := by
  obtain ⟨⟨⟨b⟩, hvalid⟩⟩ := x
  obtain ⟨⟨⟨c⟩, hvalid'⟩⟩ := y
  obtain rfl : b = c := bits_eq_of_unpack h hx
  rfl

/-! ## Short decimals -/

/-- The power of ten of a short decimal. -/
def powerOfTen (i : Fin 23) : Float :=
  have inTable : i.val < Float.exactlyRepresentablePowersOfTen.size := by simp [Float.exactlyRepresentablePowersOfTen]
  Float.exactlyRepresentablePowersOfTen[i.val]

theorem powerOfTen_table : ∀ i : Fin 23, (match (powerOfTen i).toModel.unpack with
    | .finite .positive m e _ => decide (2 ^ 52 ≤ m ∧ m * 2 ^ e.toNat = 10 ^ i.val * 2 ^ (-e).toNat)
    | _ => false) = true := by
  decide +kernel

/-- These powers of ten are floats. -/
theorem powerOfTen_exact (i : Fin 23) : ∃ m e, ∃ hm : 0 < m,
    (powerOfTen i).toModel.unpack = .finite .positive m e hm ∧ 2 ^ 52 ≤ m ∧ (m : ℚ) * 2 ^ e = 10 ^ i.val := by
  have htable := powerOfTen_table i
  split at htable
  · next m e hm hunpack =>
    obtain ⟨hlong, hvalue⟩ := of_decide_eq_true htable
    refine ⟨m, e, hm, hunpack, hlong, ?_⟩
    have hexponent : e = e.toNat - (-e).toNat := by omega
    have hvalue : (m : ℚ) * 2 ^ e.toNat = 10 ^ i.val * 2 ^ (-e).toNat := by exact_mod_cast hvalue
    rw [hexponent, zpow_sub₀ two_ne_zero, zpow_natCast, zpow_natCast, mul_div_assoc', div_eq_iff (by positivity),
      hvalue]
  · cases htable

/-- Integers of at most 53 binary digits are floats. -/
theorem short_exact {n : Nat} (hpos : 0 < n) (hshort : n < 2 ^ 53) : ∃ m e, ∃ hm : 0 < m,
    n.toUInt64.toFloat.toModel.unpack = .finite .positive m e hm ∧ 2 ^ 52 ≤ m ∧ (m : ℚ) * 2 ^ e = n := by
  have hword : n < 2 ^ 64 := Nat.lt_trans hshort (by decide)
  obtain ⟨m, e, hnormal, hround, hvalue⟩ := exists_round hpos hword
  refine ⟨m, e, hnormal.pos, unpack_toFloat_of_round hnormal hpos hword (hround .positive), hnormal.lower, ?_⟩
  rw [hvalue, nearest_of_le (Nat.le_of_lt hshort)]

theorem unpack_mul_eq {x y : Float} (h : Stored m e)
    (hmul : UnpackedFloat.mul .binary64 x.toModel.unpack y.toModel.unpack = .finite .positive m e h.pos) :
    (x * y).toModel.unpack = .finite .positive m e h.pos := by
  show UnpackedFloat.unpack .binary64 (UnpackedFloat.pack .binary64
    (UnpackedFloat.mul .binary64 x.toModel.unpack y.toModel.unpack)) = _
  rw [hmul, unpack_pack_stored .positive h]

theorem unpack_div_eq {x y : Float} (h : Stored m e)
    (hdiv : UnpackedFloat.div .binary64 x.toModel.unpack y.toModel.unpack = .finite .positive m e h.pos) :
    (x / y).toModel.unpack = .finite .positive m e h.pos := by
  show UnpackedFloat.unpack .binary64 (UnpackedFloat.pack .binary64
    (UnpackedFloat.div .binary64 x.toModel.unpack y.toModel.unpack)) = _
  rw [hdiv, unpack_pack_stored .positive h]

/-! ## All decimals -/

/-- A decimal of integers, rounded once. -/
theorem ofScientific_eq {n : Nat} {k : Int} (h : Stored m e) (hn : 0 < n) (hq : RoundsTo m e (n * 10 ^ k))
    (hbig : k ≤ 2048) (hsmall : -(2048 + n.log2) ≤ k) :
    UnpackedFloat.ofScientific .binary64 n k = .finite .positive m e h.pos := by
  have hnotBig : ¬k > 2 ^ Format.binary64.exponentBits := by
    show ¬k > 2 ^ 11
    omega
  have hnotSmall : ¬k < -((2 ^ Format.binary64.exponentBits : Int) + n.log2) := by
    show ¬k < -((2 ^ 11 : Int) + n.log2)
    omega
  rw [UnpackedFloat.ofScientific, dif_neg hn.ne', if_neg hnotBig, if_neg hnotSmall]
  split
  · next hk =>
    obtain ⟨j, rfl⟩ := Int.eq_ofNat_of_zero_le hk
    have hshift : n <<< Format.binary64.mantissaBits = n * 2 ^ 53 := Nat.shiftLeft_eq n 53
    refine mul_eq h _ _ ?_ ?_
    · rw [hshift]
      have hpower : 0 < 10 ^ (j : Int).toNat := Nat.pow_pos (by decide)
      nlinarith
    · rw [hshift]
      have hnumber : ((n * 2 ^ 53 : ℕ) : ℚ) * 2 ^ (-(Format.binary64.mantissaBits : ℤ)) *
          ((10 ^ (j : ℤ).toNat : ℕ) * 2 ^ (0 : ℤ)) = n * 10 ^ (j : ℤ) := by
        have hbits : (2 : ℚ) ^ (-(Format.binary64.mantissaBits : ℤ)) = (2 ^ 53)⁻¹ := by
          rw [zpow_neg]
          rfl
        rw [hbits, Int.toNat_natCast, zpow_zero, zpow_natCast]
        push_cast
        field_simp
        norm_num
      rwa [hnumber]
  · next hk =>
    obtain ⟨j, rfl⟩ := Int.exists_eq_neg_ofNat (Int.le_of_not_le hk)
    refine div_eq h _ _ ?_
    have hnumber : (n : ℚ) * 2 ^ (0 : ℤ) / ((10 ^ (-(-(j : ℤ))).toNat : ℕ) * 2 ^ (0 : ℤ)) = n * 10 ^ (-(j : ℤ)) := by
      rw [Int.neg_neg, Int.toNat_natCast, zpow_zero, zpow_neg, zpow_natCast]
      push_cast
      field_simp
    rwa [hnumber]

/-- **A decimal around a float is read as this float**, if its exponent is within reason. -/
theorem unpack_ofScientific {n : Nat} {k : Int} (h : Stored m e) (hn : 0 < n) (hq : RoundsTo m e (n * 10 ^ k))
    (hbig : k ≤ 2048) (hsmall : -(2048 + n.log2) ≤ k) :
    (Float.ofScientific n (decide (k < 0)) k.natAbs).toModel.unpack = .finite .positive m e h.pos := by
  rw [Float.ofScientific]
  split
  · next hfast =>
    obtain ⟨m₁, e₁, h₁, hunpack, hlong, hvalue⟩ := short_exact hn hfast.1
    obtain ⟨m₂, e₂, h₂, hunpack', hlong', hvalue'⟩ := powerOfTen_exact ⟨k.natAbs, by omega⟩
    have hvalue' : (m₂ : ℚ) * 2 ^ e₂ = 10 ^ k.natAbs := hvalue'
    split
    · next hneg =>
      obtain ⟨j, rfl⟩ := Int.exists_eq_neg_ofNat (Int.le_of_lt (of_decide_eq_true hneg))
      refine unpack_div_eq h ((congrArg₂ (UnpackedFloat.div .binary64) hunpack hunpack').trans (div_eq h h₁ h₂ ?_))
      rwa [hvalue, hvalue', Int.natAbs_neg, Int.natAbs_natCast, ← zpow_natCast, div_eq_mul_inv, ← zpow_neg]
    · next hnot =>
      obtain ⟨j, rfl⟩ := Int.eq_ofNat_of_zero_le (Int.not_lt.1 (of_decide_eq_false (Bool.not_eq_true _ ▸ hnot)))
      refine unpack_mul_eq h ((congrArg₂ (UnpackedFloat.mul .binary64) hunpack hunpack').trans
        (mul_eq h h₁ h₂ (by nlinarith) ?_))
      rwa [hvalue, hvalue', Int.natAbs_natCast, ← zpow_natCast]
  · next hslow =>
    have hexponent : (if decide (k < 0) = true then Int.negOfNat k.natAbs else Int.ofNat k.natAbs) = k := by
      rw [Int.negOfNat_eq]
      split
      · next hneg =>
        have := of_decide_eq_true hneg
        show -(k.natAbs : Int) = k
        omega
      · next hnot =>
        have := of_decide_eq_false (Bool.not_eq_true _ ▸ hnot)
        show (k.natAbs : Int) = k
        omega
    show UnpackedFloat.unpack .binary64 (UnpackedFloat.pack .binary64 (UnpackedFloat.ofScientific .binary64 n
      (if decide (k < 0) = true then Int.negOfNat k.natAbs else Int.ofNat k.natAbs))) = _
    rw [hexponent, ofScientific_eq h hn hq hbig hsmall, unpack_pack_stored .positive h]

/-! ## The size of decimals -/

/-- A number has at least as many digits as needed. -/
theorem lt_pow_width (n : Nat) : n < 10 ^ Decimal.width n :=
  (Nat.length_toDigits_le_iff (by decide) Nat.length_toDigits_pos).1 (Nat.le_refl _)

/-- A number has no digit more than needed. -/
theorem pow_width_le {n : Nat} (hn : 0 < n) : 10 ^ (Decimal.width n - 1) ≤ n := by
  by_cases hone : Decimal.width n - 1 = 0
  · rw [hone, Nat.pow_zero]
    exact hn
  · by_contra hlt
    have hshort := (Nat.length_toDigits_le_iff (n := n) (b := 10) (by decide) (Nat.pos_of_ne_zero hone)).2
      (Nat.not_le.1 hlt)
    have : Decimal.width n ≤ Decimal.width n - 1 := hshort
    omega

theorem width_le_log2 (n : Nat) : Decimal.width n ≤ n.log2 + 1 := by
  refine (Nat.length_toDigits_le_iff (by decide) (Nat.succ_pos _)).2 ?_
  exact Nat.lt_of_lt_of_le Nat.lt_log2_self (Nat.pow_le_pow_left (by decide) _)

theorem Stored.greatest (h : Stored m e) : e ≤ 971 := by
  rcases h.normal_or_short with hnormal | ⟨-, rfl⟩
  · exact hnormal.greatest
  · decide

theorem two_pow_lt_ten_pow {a b : Nat} (h : a < 3 * b) : (2 : ℚ) ^ a < 10 ^ b := by
  calc (2 : ℚ) ^ a < 2 ^ (3 * b) := pow_lt_pow_right₀ one_lt_two h
    _ = (2 ^ 3) ^ b := pow_mul 2 3 b
    _ ≤ 10 ^ b := pow_le_pow_left₀ (by norm_num) (by norm_num) b

/-- What is rounded to a float is of a size that floats have. -/
theorem RoundsTo.bounds {q : ℚ} (hq : RoundsTo m e q) (h : Stored m e) :
    (10 : ℚ) ^ (-400 : ℤ) < q ∧ q < 10 ^ (309 : ℤ) := by
  have hpos : (0 : ℚ) < 2 ^ e := by positivity
  have hlower := hq.lower
  have hupper := hq.upper
  constructor
  · have hreach : (reach m e : ℚ) ≤ 2 := by exact_mod_cast reach_le m e
    have hm : (1 : ℚ) ≤ m := by exact_mod_cast h.pos
    have hleast : (2 : ℚ) ^ (-1074 : ℤ) ≤ 2 ^ e := zpow_le_zpow_right₀ (by norm_num) h.least
    have hsmall : (10 : ℚ) ^ (-400 : ℤ) < 2 ^ (-1074 : ℤ) / 2 := by
      have hpowers : (2 : ℚ) ^ 1075 < 10 ^ 400 := two_pow_lt_ten_pow (by decide)
      have hhalf : (2 : ℚ) ^ (-1074 : ℤ) / 2 = (2 ^ 1075)⁻¹ := by
        rw [div_eq_mul_inv, ← zpow_sub_one₀ two_ne_zero, ← zpow_natCast, ← zpow_neg]
        congr 1
      rw [hhalf, zpow_neg]
      exact inv_strictAnti₀ (by positivity) hpowers
    nlinarith
  · have hm : (m : ℚ) ≤ 2 ^ 53 - 1 := by
      have : m + 1 ≤ 2 ^ 53 := h.lt
      have : (m : ℚ) + 1 ≤ 2 ^ 53 := by exact_mod_cast this
      linarith
    have hless : q < 2 ^ 53 * 2 ^ e := by nlinarith
    have hpowers : (2 : ℚ) ^ (1024 : ℤ) < 10 ^ (309 : ℤ) := by
      have hquarter : (2 : ℚ) ^ 256 < 12 * 10 ^ 76 := by norm_num
      calc (2 : ℚ) ^ (1024 : ℤ) = (2 ^ 256) ^ 4 := by rw [← pow_mul]; exact zpow_ofNat 2 1024
        _ < (12 * 10 ^ 76) ^ 4 := by gcongr
        _ = 12 ^ 4 * (10 ^ 76) ^ 4 := mul_pow 12 (10 ^ 76) 4
        _ ≤ 10 ^ 5 * (10 ^ 76) ^ 4 := by gcongr; norm_num
        _ = 10 ^ (309 : ℤ) := by rw [← pow_mul, ← pow_add]; exact (zpow_ofNat 10 309).symm
    calc q < 2 ^ 53 * 2 ^ e := hless
      _ ≤ 2 ^ 53 * 2 ^ (971 : ℤ) :=
        mul_le_mul_of_nonneg_left (zpow_le_zpow_right₀ (by norm_num) h.greatest) (by positivity)
      _ = 2 ^ (1024 : ℤ) := by
        rw [← zpow_natCast, ← zpow_add₀ two_ne_zero]
        congr 1
      _ < 10 ^ (309 : ℤ) := hpowers

/-- A decimal is as large as its digits and its exponent tell. -/
theorem RoundsTo.size {n : Nat} {k : Int} (hq : RoundsTo m e (n * 10 ^ k)) (h : Stored m e) (hn : 0 < n) :
    -400 < k + Decimal.width n ∧ k + Decimal.width n ≤ 309 := by
  obtain ⟨hsmall, hbig⟩ := hq.bounds h
  have hpos : 0 < Decimal.width n := Nat.length_toDigits_pos
  have hlower : (10 : ℚ) ^ (k + Decimal.width n - 1) ≤ n * 10 ^ k := by
    have hdigits : (10 : ℚ) ^ (Decimal.width n - 1) ≤ n := by exact_mod_cast pow_width_le hn
    have hexponent : k + Decimal.width n - 1 = (Decimal.width n - 1 : ℕ) + k := by omega
    rw [hexponent, zpow_add₀ (by norm_num), zpow_natCast]
    gcongr
  have hupper : (n : ℚ) * 10 ^ k < 10 ^ (k + Decimal.width n) := by
    have hdigits : (n : ℚ) < 10 ^ Decimal.width n := by exact_mod_cast lt_pow_width n
    rw [Int.add_comm, zpow_add₀ (by norm_num), zpow_natCast]
    gcongr
  have hsize := (zpow_lt_zpow_iff_right₀ (by norm_num)).1 (hsmall.trans hupper)
  have hsize' := (zpow_lt_zpow_iff_right₀ (by norm_num)).1 (hlower.trans_lt hbig)
  omega

/-- **A decimal around a float is read as this float.** -/
theorem unpack_nearest {n : Nat} {k : Int} (h : Stored m e) (hn : 0 < n) (hq : RoundsTo m e (n * 10 ^ k)) :
    (Decimal.nearest n k).toModel.unpack = .finite .positive m e h.pos := by
  obtain ⟨hsmall, hbig⟩ := hq.size h hn
  have hwidth := width_le_log2 n
  rw [Decimal.nearest, if_neg (by omega), if_neg (by omega)]
  exact unpack_ofScientific h hn hq (by omega) (by omega)

theorem unpack_neg_stored {s : Sign} {x : Float} (h : Stored m e)
    (hx : x.toModel.unpack = .finite s m e h.pos) : (-x).toModel.unpack = .finite (-s) m e h.pos := by
  show UnpackedFloat.unpack .binary64 (UnpackedFloat.pack .binary64 x.toModel.unpack.neg) = _
  rw [hx]
  exact unpack_pack_stored (-s) h

end LiveForm.Place

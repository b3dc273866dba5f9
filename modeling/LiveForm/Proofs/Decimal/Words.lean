import LiveForm.Proofs.Decimal.Places

/-!
# Words have finite floats

Rounding a mantissa of so many bits raises the exponent by little more than that (`round_exponent`), and a
float is stored as infinity only if its exponent is above nine hundred. A word has sixty-four bits, so the
float nearest to it is finite (`isFinite_toFloat`): an integer that is too large for a script comes back as
a number.
-/

namespace LiveForm.Place

open Float.Model Float.Model.UnpackedFloat

/-! ## Shifting and rounding -/

theorem mantissa_shiftRight_le (em : ExtendedMantissa) (n : Nat) :
    (em >>> n).mantissa ≤ em.mantissa := by
  show (n.repeat ExtendedMantissa.shiftRightOne em).mantissa ≤ _
  induction n with
  | zero => exact Nat.le_refl _
  | succ n ih =>
    rw [Nat.repeat]
    exact Nat.le_trans (Nat.div_le_self _ _) ih

theorem roundedMantissa_le (em : ExtendedMantissa) : em.roundedMantissa ≤ em.mantissa + 1 := by
  obtain ⟨m, roundBit, stickyBit⟩ := em
  cases roundBit <;> cases stickyBit <;>
    simp only [ExtendedMantissa.roundedMantissa, ExtendedMantissa.accuracy,
      Accuracy.roundToNearestEven] <;>
    omega

theorem log2_le_of_lt {m k : Nat} (h : m < 2 ^ k) : m.log2 ≤ k := by
  by_cases hm : m = 0
  · rw [hm, Nat.log2_zero]
    exact Nat.zero_le k
  · exact Nat.le_of_lt ((Nat.log2_lt hm).2 h)

/-- The mantissa of a shift gets no greater. -/
theorem shiftToTargetExponent_mantissa (f : Format) (m : Nat) (e : Int) (a : Accuracy) :
    (shiftToTargetExponent f m e a).1.mantissa ≤ m := by
  have h : (ExtendedMantissa.ofMantissaAndAccuracy m a).mantissa = m := by
    cases a with
    | exact => rfl
    | inexact o => cases o <;> rfl
  exact Nat.le_trans (mantissa_shiftRight_le _ _) (Nat.le_of_eq h)

/-- The exponent of a shift grows by no more than the bits of the mantissa. -/
theorem shiftToTargetExponent_exponent {m k : Nat} (hm : m < 2 ^ k) (e : Int) (a : Accuracy) :
    (shiftToTargetExponent .binary64 m e a).2 ≤ max e 0 + k := by
  have hlog := log2_le_of_lt hm
  simp only [shiftToTargetExponent, shiftToExponent, Format.targetExponent, totalExponent,
    Format.mantissaBits, Format.minExponent]
  omega

/-- Rounding gives zero, or a float whose exponent has not grown by much. -/
theorem roundWithAccuracy_exponent {m k : Nat} (hm : m < 2 ^ k) (s : Sign) (e : Int)
    (a : Accuracy) :
    roundWithAccuracy .binary64 s m e a = .zero s ∨ ∃ m' e' h,
      roundWithAccuracy .binary64 s m e a = .finite s m' e' h ∧ e' ≤ max e 0 + 2 * k + 1 := by
  have he₁ := shiftToTargetExponent_exponent hm e a
  have hm₁ := shiftToTargetExponent_mantissa .binary64 m e a
  simp only [roundWithAccuracy]
  generalize shiftToTargetExponent .binary64 m e a = first at he₁ hm₁
  have hrounded : first.1.roundedMantissa < 2 ^ (k + 1) := by
    have := roundedMantissa_le first.1
    rw [Nat.pow_succ]
    omega
  have he₂ := shiftToTargetExponent_exponent hrounded first.2 .exact
  split
  · exact .inl rfl
  · next hne =>
    refine .inr ⟨_, _, Nat.pos_of_ne_zero hne, rfl, ?_⟩
    omega

/-- Rounding an integer, whose mantissa is first shifted the other way. -/
theorem round_exponent {n : Nat} (hn : n < 2 ^ 64) (s : Sign) :
    round .binary64 s n 0 = .zero s ∨ ∃ m e h,
      round .binary64 s n 0 = .finite s m e h ∧ e ≤ 900 := by
  simp only [UnpackedFloat.round, decreaseExponent]
  generalize hshift : ((0 : Int) - Format.binary64.targetExponent (totalExponent n 0)).toNat = shift
  have hle : shift ≤ 52 := by
    simp only [Format.targetExponent, totalExponent, Format.mantissaBits] at hshift
    omega
  have hm : n <<< shift < 2 ^ (64 + 52) := by
    rw [Nat.shiftLeft_eq, Nat.pow_add]
    exact Nat.mul_lt_mul_of_lt_of_le hn (Nat.pow_le_pow_right (by decide) hle) (by decide)
  rcases roundWithAccuracy_exponent hm s (0 - shift) .exact with h | ⟨m, e, hpos, h, he⟩
  · exact .inl h
  · exact .inr ⟨m, e, hpos, h, by omega⟩

/-! ## Storing -/

/-- A finite float is stored with an exponent below the one of infinity, unless it is too large. -/
theorem unpackExponent_pack {f : Format} {s : Sign} {m : Nat} {e : Int} (hm : 0 < m)
    (h : ¬2 ^ f.exponentBits ≤
      (e + f.exponentBias + f.mantissaBitsWithoutImplicit).toNat + 1) :
    unpackExponent (UnpackedFloat.pack f (.finite s m e hm)) ≠ (-1#_) := by
  intro he
  rw [UnpackedFloat.pack, if_neg h] at he
  split at he
  · rw [unpackExponent_packComponents, BitVec.neg_one_eq_allOnes, ← BitVec.toNat_inj,
      BitVec.toNat_ofNat, BitVec.toNat_allOnes, Nat.mod_eq_of_lt (by omega)] at he
    omega
  · rw [unpackExponent_packComponents, BitVec.neg_one_eq_allOnes, ← BitVec.toNat_inj,
      BitVec.toNat_ofNat, BitVec.toNat_allOnes, Nat.zero_mod] at he
    have := Nat.one_lt_two_pow (Nat.pos_iff_ne_zero.1 f.he)
    omega

/-- What is stored with an exponent that is not all ones is finite. -/
theorem isFinite_unpack {f : Format} {b : BitVec f.numBits} (h : unpackExponent b ≠ (-1#_)) :
    (UnpackedFloat.unpack f b).isFinite = true := by
  simp only [UnpackedFloat.unpack, if_neg h]
  split
  · split <;> rfl
  · rfl

theorem isFinite_unpack_pack {s : Sign} {m : Nat} {e : Int} (hm : 0 < m) (he : e ≤ 971) :
    (UnpackedFloat.unpack .binary64 (UnpackedFloat.pack .binary64 (.finite s m e hm))).isFinite =
      true := by
  refine isFinite_unpack (unpackExponent_pack hm ?_)
  simp only [Format.exponentBias]
  omega

/-- **The float nearest to a word is finite.** -/
theorem isFinite_toFloat (n : UInt64) : n.toFloat.isFinite = true := by
  show (UnpackedFloat.unpack .binary64 (UnpackedFloat.pack .binary64
    (normalize .binary64 n.toNat 0 .positive))).isFinite = true
  simp only [UnpackedFloat.normalize]
  split
  · next h =>
    rw [Int.compare_eq_lt] at h
    omega
  · rfl
  · rcases round_exponent n.toNat_lt .positive with h | ⟨m, e, hpos, h, he⟩
    · rw [Int.toNat_natCast, h]
      rfl
    · rw [Int.toNat_natCast, h]
      exact isFinite_unpack_pack hpos (by omega)

end LiveForm.Place

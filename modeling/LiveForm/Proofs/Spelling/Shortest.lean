import LiveForm.Proofs.Spelling.Scientific

/-!
# The shortest decimal lies around the float

The digits a float is written with are those of a decimal in its interval (`shortest_roundsTo`), so they are read
back as the float. For the search looks no further than to seventeen digits, this takes that a decimal of seventeen
digits is always found: next to a float there is one no further away than half a unit of the seventeenth digit, and
that is less than the float's distance to the ends of its interval, as `2 ^ 53 < 10 ^ 16` (`roundsTo_of_close`).
-/

namespace LiveForm.Decimal

open Place

variable {m : Nat} {e : Int}

/-! ## Intervals -/

/-- Scaling multiplies with a power of ten. -/
theorem scale_value (num : Nat) {den : Nat} (hden : 0 < den) (k : Int) :
    0 < (scale num den k).2 ∧ ((scale num den k).1 : ℚ) / (scale num den k).2 = num / den * 10 ^ k := by
  rw [scale]
  split
  · next hk =>
    obtain ⟨j, rfl⟩ := Int.eq_ofNat_of_zero_le hk
    refine ⟨hden, ?_⟩
    rw [Int.toNat_natCast, zpow_natCast]
    push_cast
    ring
  · next hk =>
    obtain ⟨j, rfl⟩ := Int.exists_eq_neg_ofNat (Int.le_of_not_le hk)
    refine ⟨Nat.mul_pos hden (Nat.pow_pos (by decide)), ?_⟩
    rw [Int.neg_neg, Int.toNat_natCast, zpow_neg, zpow_natCast]
    push_cast
    field_simp

/-- The power of two of an exponent, as a fraction. -/
theorem exists_power (e : Int) : ∃ num den : Nat,
    (if 0 ≤ e then (2 ^ e.toNat, 1) else (1, 2 ^ (-e).toNat)) = (num, den) ∧
    0 < den ∧ (num : ℚ) / den = 2 ^ e := by
  split
  · next he =>
    obtain ⟨j, rfl⟩ := Int.eq_ofNat_of_zero_le he
    refine ⟨_, _, rfl, Nat.one_pos, ?_⟩
    rw [Int.toNat_natCast, zpow_natCast]
    push_cast
    ring
  · next he =>
    obtain ⟨j, rfl⟩ := Int.exists_eq_neg_ofNat (Int.le_of_not_le he)
    refine ⟨_, _, rfl, Nat.two_pow_pos _, ?_⟩
    rw [Int.neg_neg, Int.toNat_natCast, zpow_neg, zpow_natCast]
    push_cast
    ring

theorem Interval.exists_of (m : Nat) (e : Int) : ∃ num den : Nat, 0 < den ∧ (num : ℚ) / den = 2 ^ e ∧
    Interval.of m e = ⟨(4 * m - reach m e) * num, 4 * m * num, (4 * m + 2) * num, 4 * den, m % 2 == 0⟩ := by
  obtain ⟨num, den, hpower, hden, hvalue⟩ := exists_power e
  have hreach : (if (m == 2 ^ 52 && decide (-1074 < e)) = true then 1 else 2) = reach m e := by
    simp only [reach, Bool.and_eq_true, beq_iff_eq, decide_eq_true_iff]
  refine ⟨num, den, hden, hvalue, ?_⟩
  rw [Interval.of, hpower, ← hreach]

/-- The value of an interval is that of the float. -/
theorem Interval.value_of (m : Nat) (e : Int) : 0 < (Interval.of m e).den ∧
    ((Interval.of m e).value : ℚ) / (Interval.of m e).den = m * 2 ^ e := by
  obtain ⟨num, den, hden, hpower, hof⟩ := exists_of m e
  have hpos : (0 : ℚ) < den := Nat.cast_pos.2 hden
  rw [hof, ← hpower]
  refine ⟨Nat.mul_pos (by decide) hden, ?_⟩
  push_cast
  field_simp

/-- **A decimal is in the interval of a float** just if it is rounded to it. -/
theorem Interval.contains_iff (hm : 0 < m) (e : Int) (c : Nat) (k : Int) :
    (Interval.of m e).contains c k = true ↔ RoundsTo m e (c * 10 ^ k) := by
  obtain ⟨num, den, hden, hpower, hof⟩ := exists_of m e
  obtain ⟨hb, hvalue⟩ := scale_value c Nat.one_pos k
  rw [Nat.cast_one, div_one] at hvalue
  have hle : reach m e ≤ 4 * m := by
    have := reach_le m e
    omega
  rw [hof, contains]
  rcases hscale : scale c 1 k with ⟨a, b⟩
  rw [hscale] at hb hvalue
  have hbpos : (0 : ℚ) < b := Nat.cast_pos.2 hb
  have hdpos : (0 : ℚ) < den := Nat.cast_pos.2 hden
  -- Ends are compared with the decimal by multiplying out.
  have hleft (x : Nat) : x * num * b ≤ a * (4 * den) ↔ (x : ℚ) * 2 ^ e ≤ 4 * (c * 10 ^ k) := by
    rw [← hpower, ← hvalue, mul_div_assoc', mul_div_assoc', div_le_div_iff₀ hdpos hbpos,
      show (4 * a * den : ℚ) = a * (4 * den) by ring]
    exact_mod_cast Iff.rfl
  have hright (x : Nat) : a * (4 * den) ≤ x * num * b ↔ 4 * (c * 10 ^ k : ℚ) ≤ x * 2 ^ e := by
    rw [← hpower, ← hvalue, mul_div_assoc', mul_div_assoc', div_le_div_iff₀ hbpos hdpos,
      show (4 * a * den : ℚ) = a * (4 * den) by ring]
    exact_mod_cast Iff.rfl
  have hlow : ((4 * m - reach m e : ℕ) : ℚ) = 4 * m - reach m e := by push_cast [Nat.cast_sub hle]; ring
  have hhigh : ((4 * m + 2 : ℕ) : ℚ) = 4 * m + 2 := by push_cast; ring
  rcases Nat.mod_two_eq_zero_or_one m with heven | hodd
  · have hclosed : (m % 2 == 0) = true := by simp [heven]
    simp only [hclosed, if_true, decide_eq_true_iff, hleft, hright, hlow, hhigh]
    exact ⟨fun h => ⟨h.1, h.2, fun hodd => by omega⟩, fun h => ⟨h.lower, h.upper⟩⟩
  · have hopen : (m % 2 == 0) = false := by simp [hodd]
    simp only [hopen, Bool.false_eq_true, if_false, decide_eq_true_iff, ← not_le, hleft, hright, hlow, hhigh]
    simp only [not_le]
    exact ⟨fun h => ⟨h.1.le, h.2.le, fun _ => h⟩, fun h => h.inside hodd⟩

/-! ## Seventeen digits -/

/-- A number that is so near to a float is rounded to it. -/
theorem roundsTo_of_close {q : ℚ} (h : Stored m e) (hlower : m * 2 ^ e ≤ q + m * 2 ^ e / (2 * 10 ^ 16))
    (hupper : q ≤ m * 2 ^ e + m * 2 ^ e / (2 * 10 ^ 16)) : RoundsTo m e q := by
  have hpos : (0 : ℚ) < 2 ^ e := by positivity
  have hm : (m : ℚ) < 2 ^ 53 := by exact_mod_cast h.lt
  have hhigh : 4 * q < (4 * m + 2) * 2 ^ e := by
    nlinarith
  have hlow : (4 * m - reach m e) * 2 ^ e < 4 * q := by
    rw [reach]
    split
    · next hnarrow =>
      rw [hnarrow.1] at hlower ⊢
      push_cast at hlower ⊢
      nlinarith
    · push_cast
      nlinarith
  exact ⟨hlow.le, hhigh.le, fun _ => ⟨hlow, hhigh⟩⟩

/-- Lifting a fraction by powers of ten brings it to one at last. -/
theorem leadingZeros_spec {num den fuel : Nat} (h : den ≤ num * 10 ^ fuel) :
    den ≤ num * 10 ^ (leadingZeros num den fuel + 1) := by
  induction fuel generalizing num with
  | zero =>
    rw [Nat.pow_zero, Nat.mul_one] at h
    rw [leadingZeros, Nat.zero_add, Nat.pow_one]
    omega
  | succ fuel ih =>
    rw [leadingZeros]
    split
    · next hle => rwa [Nat.zero_add, Nat.pow_one]
    · rw [Nat.pow_succ', ← Nat.mul_assoc] at h
      have := ih h
      rwa [Nat.mul_assoc, ← Nat.pow_succ', Nat.add_comm _ 1] at this

/-- The magnitude of a number is not too great for it. -/
theorem magnitude_le {num den : Nat} (hden : 0 < den) (h : den ≤ num * 10 ^ 400) :
    (10 : ℚ) ^ (magnitude num den - 1) ≤ num / den := by
  have hpos : (0 : ℚ) < den := Nat.cast_pos.2 hden
  rw [magnitude, le_div_iff₀ hpos]
  split
  · next hle =>
    have hquotient : 0 < num / den := Nat.div_pos hle hden
    have hwidth : 0 < width (num / den) := Nat.length_toDigits_pos
    have hexponent : (width (num / den) : ℤ) - 1 = (width (num / den) - 1 : ℕ) := by omega
    rw [hexponent, zpow_natCast]
    have := (Nat.le_div_iff_mul_le hden).1 (pow_width_le hquotient)
    exact_mod_cast this
  · have hspec := leadingZeros_spec h
    have hexponent : -(leadingZeros num den 400 : ℤ) - 1 = -((leadingZeros num den 400 + 1 : ℕ) : ℤ) := by omega
    rw [hexponent, zpow_neg, zpow_natCast, inv_mul_le_iff₀ (by positivity), mul_comm]
    exact_mod_cast hspec

/-- One of the two integers next to a large number is near to it in proportion. -/
theorem near_of_large {v power : ℚ} {a b : Nat} (hb : 0 < b) (hpower : 0 < power) (hv : v = a / b * power)
    (hlarge : (10 : ℚ) ^ 16 ≤ a / b) :
    (v ≤ (a / b : ℕ) * power + v / (2 * 10 ^ 16) ∧ (a / b : ℕ) * power ≤ v + v / (2 * 10 ^ 16)) ∨
      (v ≤ (a / b + 1 : ℕ) * power + v / (2 * 10 ^ 16) ∧ (a / b + 1 : ℕ) * power ≤ v + v / (2 * 10 ^ 16)) := by
  have hbpos : (0 : ℚ) < b := Nat.cast_pos.2 hb
  have hfloor : ((a / b : ℕ) : ℚ) ≤ a / b := Nat.cast_div_le
  have hceil : (a : ℚ) / b < (a / b + 1 : ℕ) := by
    rw [div_lt_iff₀ hbpos]
    exact_mod_cast Nat.lt_mul_of_div_lt (Nat.lt_succ_self _) hb
  push_cast at hceil ⊢
  generalize (a : ℚ) / b = x at *
  generalize ((a / b : ℕ) : ℚ) = c at *
  -- half a unit of the last digit
  have hhalf : power / 2 ≤ v / (2 * 10 ^ 16) := by
    rw [hv, div_le_div_iff₀ (by norm_num) (by norm_num)]
    nlinarith
  rcases le_total (2 * x) (2 * c + 1) with hbelow | habove
  · left
    constructor <;> nlinarith
  · right
    constructor <;> nlinarith

/-- The decimal of `n` digits next below the value of an interval. -/
def Interval.candidate (i : Interval) (p : Int) (n : Nat) : Nat :=
  (scale i.value i.den (-(p - n))).1 / (scale i.value i.den (-(p - n))).2

/-- The decimal that is found is the candidate or the one above it, if it is in the interval. -/
theorem Interval.nearest?_cases (i : Interval) (p : Int) (n : Nat) :
    i.nearest? p n = some (i.candidate p n, p - n) ∧ i.contains (i.candidate p n) (p - n) = true ∧ i.candidate p n ≠ 0 ∨
      i.nearest? p n = some (i.candidate p n + 1, p - n) ∧ i.contains (i.candidate p n + 1) (p - n) = true ∨
      i.nearest? p n = none ∧ (i.contains (i.candidate p n) (p - n) = true → i.candidate p n = 0) ∧
        i.contains (i.candidate p n + 1) (p - n) = false := by
  rw [nearest?, candidate]
  generalize scale i.value i.den (-(p - n)) = fraction
  obtain ⟨a, b⟩ := fraction
  simp only
  cases hbelow : i.contains (a / b) (p - n) && a / b != 0 with
  | true =>
    rw [Bool.and_eq_true, bne_iff_ne] at hbelow
    cases habove : i.contains (a / b + 1) (p - n) with
    | true =>
      simp only
      split
      · exact .inl ⟨rfl, hbelow⟩
      · exact .inr (.inl ⟨rfl, trivial⟩)
    | false => exact .inl ⟨rfl, hbelow⟩
  | false =>
    cases habove : i.contains (a / b + 1) (p - n) with
    | true => exact .inr (.inl ⟨rfl, rfl⟩)
    | false =>
      refine .inr (.inr ⟨rfl, fun hin => ?_, rfl⟩)
      rw [hin, Bool.true_and, bne_eq_false_iff_eq] at hbelow
      exact hbelow

/-- **One of the two decimals of seventeen digits** next to a float is rounded to it. -/
theorem Interval.nearest?_isSome (h : Stored m e) {p : Int} (hp : (10 : ℚ) ^ (p - 1) ≤ m * 2 ^ e) :
    ((Interval.of m e).nearest? p 17).isSome = true := by
  obtain ⟨hden, hvalue⟩ := value_of m e
  obtain ⟨hb, hscaled⟩ := scale_value (Interval.of m e).value hden (-(p - (17 : ℕ)))
  rw [hvalue] at hscaled
  have hpower : (0 : ℚ) < 10 ^ (p - (17 : ℕ)) := by positivity
  have hcandidate : (Interval.of m e).candidate p 17 =
    (scale (Interval.of m e).value (Interval.of m e).den (-(p - (17 : ℕ)))).1 /
      (scale (Interval.of m e).value (Interval.of m e).den (-(p - (17 : ℕ)))).2 := rfl
  generalize scale (Interval.of m e).value (Interval.of m e).den (-(p - (17 : ℕ))) = fraction at *
  obtain ⟨a, b⟩ := fraction
  have hlarge : (10 : ℚ) ^ 16 ≤ a / b := by
    have hexponent : ((16 : ℕ) : ℤ) = p - 1 + -(p - (17 : ℕ)) := by omega
    rw [hscaled, ← zpow_natCast, hexponent, zpow_add₀ (by norm_num)]
    gcongr
  have hv : (m : ℚ) * 2 ^ e = a / b * 10 ^ (p - (17 : ℕ)) := by
    rw [hscaled, mul_assoc, ← zpow_add₀ (by norm_num), neg_add_cancel, zpow_zero, mul_one]
  have hne : a / b ≠ 0 := by
    have hle : 10 ^ 16 ≤ a / b := (Nat.le_div_iff_mul_le hb).2 (by
      rw [le_div_iff₀ (Nat.cast_pos.2 hb)] at hlarge
      exact_mod_cast hlarge)
    omega
  rcases (Interval.of m e).nearest?_cases p 17 with hfound | hfound | ⟨-, hbelow, habove⟩
  · rw [hfound.1]
    rfl
  · rw [hfound.1]
    rfl
  · exfalso
    rw [hcandidate] at hbelow habove
    rcases near_of_large hb hpower hv hlarge with hnear | hnear
    · exact hne (hbelow ((contains_iff h.pos e _ _).2 (roundsTo_of_close h hnear.1 hnear.2)))
    · rw [(contains_iff h.pos e _ _).2 (roundsTo_of_close h hnear.1 hnear.2)] at habove
      cases habove

/-! ## The search -/

/-- What is found is in the interval, and it is not zero. -/
theorem Interval.contains_of_nearest? {i : Interval} {p k : Int} {n c : Nat} (h : i.nearest? p n = some (c, k)) :
    i.contains c k = true ∧ 0 < c := by
  rcases i.nearest?_cases p n with ⟨hfound, hin, hne⟩ | ⟨hfound, hin⟩ | ⟨hfound, -⟩
  · cases h.symm.trans hfound
    exact ⟨hin, Nat.pos_of_ne_zero hne⟩
  · cases h.symm.trans hfound
    exact ⟨hin, Nat.succ_pos _⟩
  · cases h.symm.trans hfound

/-- A search that reaches a length with a decimal ends with a decimal. -/
theorem Interval.contains_shortest {i : Interval} {p : Int} {n far fuel : Nat} (hfar : (i.nearest? p far).isSome = true)
    (hn : n ≤ far) (hfuel : far < n + fuel) :
    i.contains (i.shortest p n fuel).1 (i.shortest p n fuel).2 = true ∧ 0 < (i.shortest p n fuel).1 := by
  induction fuel generalizing n with
  | zero => omega
  | succ fuel ih =>
    rw [shortest]
    cases hfound : i.nearest? p n with
    | some found => exact contains_of_nearest? hfound
    | none =>
      have hne : n ≠ far := by
        rintro rfl
        rw [hfound] at hfar
        cases hfar
      exact ih (by omega) (by omega)

/-- **The digits of a float are those of a decimal that is rounded to it.** -/
theorem shortest_roundsTo (h : Stored m e) :
    ∃ c k, shortest m e = .ofDecimal c k ∧ 0 < c ∧ RoundsTo m e (c * 10 ^ k) := by
  obtain ⟨hden, hvalue⟩ := Interval.value_of m e
  have hlarge : (Interval.of m e).den ≤ (Interval.of m e).value * 10 ^ 400 := by
    have hm : (1 : ℚ) ≤ m := by exact_mod_cast h.pos
    have hleast : (2 : ℚ) ^ (-1074 : ℤ) ≤ 2 ^ e := zpow_le_zpow_right₀ (by norm_num) h.least
    have hpowers : (2 : ℚ) ^ 1074 ≤ 10 ^ 400 := (two_pow_lt_ten_pow (by decide)).le
    have hone : 1 ≤ (m * 2 ^ e : ℚ) * 10 ^ 400 := by
      calc (1 : ℚ) = 1 * 2 ^ (-1074 : ℤ) * 2 ^ 1074 := by
            rw [one_mul, ← zpow_natCast, ← zpow_add₀ two_ne_zero]
            rfl
        _ ≤ m * 2 ^ e * 10 ^ 400 := by gcongr
    rw [← hvalue, div_mul_eq_mul_div, one_le_div (Nat.cast_pos.2 hden)] at hone
    exact_mod_cast hone
  have hmagnitude := magnitude_le hden hlarge
  rw [hvalue] at hmagnitude
  obtain ⟨hcontains, hpos⟩ := Interval.contains_shortest (Interval.nearest?_isSome h hmagnitude)
    (show 1 ≤ 17 by decide) (show 17 < 1 + 18 by decide)
  exact ⟨_, _, rfl, hpos, (Interval.contains_iff h.pos e _ _).1 hcontains⟩

end LiveForm.Decimal

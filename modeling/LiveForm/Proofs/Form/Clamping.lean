import LiveForm.Proofs.Decimal.Value
import LiveForm.Proofs.Form.Respect

/-!
# Laws of clamping

Read as numbers, finite floats are clamped as numbers are: raised to the lower bound, and then lowered to the upper
one (`clampFloat_value`). What is written anew on the way is the number it was, an integer just where it is one of at
most 63 bits (`numberOfFloat_value`). So between finite bounds that are in order a number ends within them, and the
order of numbers is kept.

Clamping twice is clamping once, whatever the bounds are (`clampFloat_clampFloat`). A bound that is NaN does not
count. If the bounds are the wrong way round, the upper one wins, and it wins again. An infinity is no number, and what
becomes of it is left alone from then on.
-/

namespace LiveForm

open Place

variable {x y lo hi : Float} {min max : Option Float}

/-! ## Floats that are written as numbers -/

/-- A float that is an integer of at most 63 bits is written as this integer. -/
theorem numberOfFloat_of_integer (hx : x.isFinite = true) {k : ℤ} (hvalue : floatValue x = k) (hk : k.natAbs < 2 ^ 63) :
    ∃ h, numberOfFloat x = .num (.int k h) := by
  obtain ⟨b, hb⟩ := exists_binary hx
  have hinteger : (Binary.ofFloat? x).bind Binary.toInt? = some k := by
    rw [hb, Option.bind_some]
    exact Binary.toInt?_of_value ((floatValue_eq hb).symm.trans hvalue)
  refine ⟨⟨by omega, by omega⟩, ?_⟩
  rw [numberOfFloat, hinteger]
  exact dif_pos hk

/-- Any other is written as it is. -/
theorem numberOfFloat_of_not_integer (hx : x.isFinite = true)
    (h : ¬∃ k : ℤ, floatValue x = k ∧ k.natAbs < 2 ^ 63) : numberOfFloat x = .num (.real x hx) := by
  rw [numberOfFloat]
  split
  · next k hk =>
    obtain ⟨b, hb⟩ := exists_binary hx
    rw [hb, Option.bind_some] at hk
    have hvalue : floatValue x = k := (floatValue_eq hb).trans (Binary.value_of_toInt? hk)
    rw [dif_neg fun hlt => h ⟨k, hvalue, hlt⟩, Json.ofFloat_of_isFinite hx]
  · exact Json.ofFloat_of_isFinite hx

/-- **A finite float is written as the number it is**, as an integer where it is one of at most 63 bits. -/
theorem numberOfFloat_value (hx : x.isFinite = true) :
    ∃ n, numberOfFloat x = .num n ∧ n.value = floatValue x ∧
      ((∃ k h, n = .int k h) ↔ ∃ k : ℤ, floatValue x = k ∧ |k| < 2 ^ 63) := by
  have hsize (k : ℤ) : |k| < 2 ^ 63 ↔ k.natAbs < 2 ^ 63 := by
    rw [Int.abs_eq_natAbs]
    omega
  simp only [hsize]
  by_cases h : ∃ k : ℤ, floatValue x = k ∧ k.natAbs < 2 ^ 63
  · obtain ⟨k, hvalue, hk⟩ := h
    obtain ⟨hword, hwritten⟩ := numberOfFloat_of_integer hx hvalue hk
    exact ⟨.int k hword, hwritten, hvalue.symm, iff_of_true ⟨k, hword, rfl⟩ ⟨k, hvalue, hk⟩⟩
  · refine ⟨.real x hx, numberOfFloat_of_not_integer hx h, rfl, iff_of_false ?_ h⟩
    rintro ⟨k, hword, hint⟩
    cases hint

/-! ## Floats that are clamped -/

theorem maxFloat_maxFloat (x lo : Float) : maxFloat (maxFloat x lo) lo = maxFloat x lo := by
  rcases maxFloat_eq_or x lo with h | h
  · rw [h, h]
  · rw [h]
    exact (maxFloat_eq_or lo lo).elim id id

theorem minFloat_minFloat (x hi : Float) : minFloat (minFloat x hi) hi = minFloat x hi := by
  rcases minFloat_eq_or x hi with h | h
  · rw [h, h]
  · rw [h]
    exact (minFloat_eq_or hi hi).elim id id

theorem isNaN_maxFloat (hx : x.isNaN = false) (lo : Float) : (maxFloat x lo).isNaN = false := by
  rw [maxFloat, hx, if_neg Bool.false_ne_true]
  cases hlo : lo.isNaN with
  | true => rwa [if_pos rfl]
  | false =>
    rw [if_neg Bool.false_ne_true]
    split
    · exact hlo
    · exact hx

/-- A float that has been lowered to an upper bound below the lower one is there again when it is raised and lowered
once more. -/
theorem minFloat_maxFloat_self (hhi : hi.isNaN = false) (lo : Float) : minFloat (maxFloat hi lo) hi = hi := by
  have hself : minFloat hi hi = hi := (minFloat_eq_or hi hi).elim id id
  rw [maxFloat, hhi, if_neg Bool.false_ne_true]
  cases hlo : lo.isNaN with
  | true => rw [if_pos rfl, hself]
  | false =>
    rw [if_neg Bool.false_ne_true]
    split
    · next hlt => rw [minFloat, hlo, hhi, if_neg Bool.false_ne_true, if_neg Bool.false_ne_true, if_pos hlt]
    · exact hself

/-- **Clamping a float twice** is clamping it once, whatever the bounds. -/
theorem clampFloat_clampFloat (hx : x.isNaN = false) (min max : Option Float) :
    clampFloat min max (clampFloat min max x) = clampFloat min max x := by
  cases min with
  | none =>
    cases max with
    | none => rfl
    | some hi => exact minFloat_minFloat x hi
  | some lo =>
    cases max with
    | none => exact maxFloat_maxFloat x lo
    | some hi =>
      show minFloat (maxFloat (minFloat (maxFloat x lo) hi) lo) hi = minFloat (maxFloat x lo) hi
      have hraised := isNaN_maxFloat hx lo
      rcases minFloat_eq_or (maxFloat x lo) hi with h | h
      · -- it stays where it was raised to
        rw [h, maxFloat_maxFloat, h]
      · -- it is lowered to the upper bound, which counts
        rw [h]
        refine minFloat_maxFloat_self ?_ lo
        cases hhi : hi.isNaN with
        | false => rfl
        | true =>
          rw [minFloat, hraised, hhi, if_neg Bool.false_ne_true, if_pos rfl] at h
          rw [← hhi, ← h, hraised]

theorem maxFloat_of_le (hx : x.isNaN = false) (h : lo ≤ x) : maxFloat x lo = x := by
  rw [maxFloat, hx, if_neg Bool.false_ne_true]
  split
  · rfl
  · exact if_neg (not_lt_of_le h)

theorem minFloat_of_le (hx : x.isNaN = false) (h : x ≤ hi) : minFloat x hi = x := by
  rw [minFloat, hx, if_neg Bool.false_ne_true]
  split
  · rfl
  · exact if_neg (not_lt_of_le h)

/-- A float between its bounds does not move. -/
theorem clampFloat_of_between (hx : x.isNaN = false) (h : Between min max x) : clampFloat min max x = x := by
  have hraised : clampFloat min none x = x := by
    cases hmin : min with
    | none => rfl
    | some lo => exact maxFloat_of_le hx (h.above lo hmin)
  rw [clampFloat_eq, hraised]
  cases hmax : max with
  | none => rfl
  | some hi => exact minFloat_of_le hx (h.below hi hmax)

/-! ## Numbers that are clamped -/

/-- A number raised to a lower bound, and then lowered to an upper one. -/
def clampValue (min max : Option Float) (q : ℚ) : ℚ :=
  let raised := min.elim q fun lo => q ⊔ floatValue lo
  max.elim raised fun hi => raised ⊓ floatValue hi

/-- A number that comparisons see between the bounds. -/
structure Number.Within (min max : Option Float) (n : Number) : Prop where
  above : ∀ lo ∈ min, floatValue lo ≤ n.rounded
  below : ∀ hi ∈ max, n.rounded ≤ floatValue hi

theorem maxFloat_value (hx : x.isFinite = true) (hlo : lo.isFinite = true) :
    floatValue (maxFloat x lo) = floatValue x ⊔ floatValue lo := by
  rw [maxFloat, isNaN_of_isFinite hx, isNaN_of_isFinite hlo, if_neg Bool.false_ne_true, if_neg Bool.false_ne_true,
    max_def_lt]
  simp only [lt_iff_value hx hlo, apply_ite floatValue]

theorem minFloat_value (hx : x.isFinite = true) (hhi : hi.isFinite = true) :
    floatValue (minFloat x hi) = floatValue x ⊓ floatValue hi := by
  rw [minFloat, isNaN_of_isFinite hx, isNaN_of_isFinite hhi, if_neg Bool.false_ne_true, if_neg Bool.false_ne_true,
    inf_comm, min_def_lt]
  simp only [lt_iff_value hhi hx, apply_ite floatValue]

/-- **Finite floats are clamped as the numbers they are.** -/
theorem clampFloat_value (h : BoundsInOrder min max) (hx : x.isFinite = true) :
    floatValue (clampFloat min max x) = clampValue min max (floatValue x) := by
  have hraised : floatValue (clampFloat min none x) = clampValue min none (floatValue x) := by
    cases hmin : min with
    | none => rfl
    | some lo => exact maxFloat_value hx (h.min_finite lo hmin)
  have hfinite := isFinite_raised h hx
  rw [clampFloat_eq]
  cases hmax : max with
  | none => exact hraised
  | some hi => exact (minFloat_value hfinite (h.max_finite hi hmax)).trans (congrArg (· ⊓ floatValue hi) hraised)

theorem clampValue_mono (min max : Option Float) : Monotone (clampValue min max) := by
  intro p q h
  have hraised : (min.elim p fun lo => p ⊔ floatValue lo) ≤ min.elim q fun lo => q ⊔ floatValue lo := by
    cases min with
    | none => exact h
    | some lo => exact sup_le_sup_right h _
  cases max with
  | none => exact hraised
  | some hi => exact inf_le_inf_right _ hraised

namespace Number

variable {n : Number}

/-- Between finite bounds, comparing floats is comparing numbers. -/
theorem between_iff_within (h : BoundsInOrder min max) : Between min max n.toFloat ↔ n.Within min max := by
  have hn := n.isFinite_toFloat
  constructor
  · rintro ⟨habove, hbelow⟩
    refine ⟨fun lo hlo => ?_, fun hi hhi => ?_⟩
    · rw [← floatValue_toFloat, ← le_iff_value (h.min_finite lo hlo) hn]
      exact habove lo hlo
    · rw [← floatValue_toFloat, ← le_iff_value hn (h.max_finite hi hhi)]
      exact hbelow hi hhi
  · rintro ⟨habove, hbelow⟩
    refine ⟨fun lo hlo => ?_, fun hi hhi => ?_⟩
    · rw [le_iff_value (h.min_finite lo hlo) hn, floatValue_toFloat]
      exact habove lo hlo
    · rw [le_iff_value hn (h.max_finite hi hhi), floatValue_toFloat]
      exact hbelow hi hhi

end Number

/-! ## Values in an element -/

namespace Element

variable {e : Element}

/-- A number in an element becomes a number, which is the clamped one. -/
theorem clamp_rounded (hrange : e.capabilities.range = true) (h : BoundsInOrder e.min e.max) (n : Number) :
    ∃ m, e.clamp (.num n) = .num m ∧ m.rounded = clampValue e.min e.max n.rounded := by
  have hn := n.isFinite_toFloat
  have hclamped := isFinite_clampFloat h hn
  have hvalue := clampFloat_value h hn
  rw [Number.floatValue_toFloat] at hvalue
  rw [clamp_num hrange]
  split
  · next hstays =>
    rw [beq_iff_value hclamped hn, hvalue, Number.floatValue_toFloat] at hstays
    exact ⟨n, rfl, hstays.symm⟩
  · obtain ⟨m, hm, hbeq⟩ := numberOfFloat_beq hclamped
    rw [beq_iff_value m.isFinite_toFloat hclamped, hvalue, Number.floatValue_toFloat] at hbeq
    exact ⟨m, hm, hbeq⟩

/-- A number between the bounds stays as it is written. -/
theorem clamp_of_between {n : Number} (h : Between e.min e.max n.toFloat) : e.clamp (.num n) = .num n := by
  by_cases hrange : e.capabilities.range
  · have hstays := clampFloat_of_between (isNaN_of_isFinite n.isFinite_toFloat) h
    rw [clamp_num hrange, hstays]
    exact if_pos (Number.same_refl n)
  · rw [clamp, if_neg hrange]

/-- **Clamping twice is clamping once**, in whatever bounds. -/
theorem clamp_clamp (e : Element) (v : Json) : e.clamp (e.clamp v) = e.clamp v := by
  by_cases hnum : ∃ n, v = .num n
  · obtain ⟨n, rfl⟩ := hnum
    by_cases hrange : e.capabilities.range
    · have hn := isNaN_of_isFinite n.isFinite_toFloat
      have htwice := clampFloat_clampFloat hn e.min e.max
      rw [clamp_num hrange]
      split
      · next hstays => rw [clamp_num hrange, if_pos hstays]
      · by_cases hfinite : (clampFloat e.min e.max n.toFloat).isFinite
        · obtain ⟨m, hm, hbeq⟩ := numberOfFloat_beq hfinite
          have hagain := clampFloat_congr hbeq e.min e.max
          rw [htwice] at hagain
          rw [hm, clamp_num hrange, if_pos (beq_trans hagain (beq_symm hbeq))]
        · have hnull : ¬∃ n, Json.null = .num n := by
            rintro ⟨n, hn⟩
            cases hn
          rw [numberOfFloat_of_not_isFinite (Bool.eq_false_iff.2 hfinite), clamp_of_not_num e hnull]
    · rw [clamp, if_neg hrange, clamp, if_neg hrange]
  · rw [clamp_of_not_num e hnum, clamp_of_not_num e hnum]

/-- **The laws of clamping.** A finite float is written as the number it is, as an integer just if it is one of at most
63 bits. What is no number, and whatever is in an element without a range, stays as it is; so does a number that is
between the bounds, as it is written. Where the bounds are finite and in order, a number becomes a number within them,
and the order of numbers is kept. In whatever bounds, a value that has been clamped stays as it is. -/
theorem clamping_laws :
    (∀ x : Float, x.isFinite = true → ∃ n, numberOfFloat x = .num n ∧ n.value = floatValue x ∧
      ((∃ k h, n = .int k h) ↔ ∃ k : ℤ, floatValue x = k ∧ |k| < 2 ^ 63)) ∧
    ∀ e : Element,
      (∀ v, (e.capabilities.range = false ∨ ¬∃ n, v = .num n) → e.clamp v = v) ∧
      (∀ n : Number, Between e.min e.max n.toFloat → e.clamp (.num n) = .num n) ∧
      (e.capabilities.range = true → BoundsInOrder e.min e.max →
        (∀ n : Number, Between e.min e.max n.toFloat ↔ n.Within e.min e.max) ∧
        (∀ n, ∃ m, e.clamp (.num n) = .num m ∧ m.Within e.min e.max) ∧
        ∀ n n' m m' : Number, n.rounded ≤ n'.rounded → e.clamp (.num n) = .num m → e.clamp (.num n') = .num m' →
          m.rounded ≤ m'.rounded) ∧
      ∀ v, e.clamp (e.clamp v) = e.clamp v := by
  refine ⟨fun x hx => numberOfFloat_value hx, fun e => ⟨fun v hv => ?_, fun n => clamp_of_between,
    fun hrange h => ⟨fun n => Number.between_iff_within h, fun n => ?_, fun n n' m m' hle hm hm' => ?_⟩, e.clamp_clamp⟩⟩
  · rcases hv with hrange | hnum
    · rw [clamp.eq_def, hrange, if_neg Bool.false_ne_true]
    · exact clamp_of_not_num e hnum
  · obtain ⟨m, hm, -⟩ := clamp_rounded hrange h n
    exact ⟨m, hm, (Number.between_iff_within h).1 (inRange_clamp hrange h hm)⟩
  · obtain ⟨k, hk, hvalue⟩ := clamp_rounded hrange h n
    obtain ⟨k', hk', hvalue'⟩ := clamp_rounded hrange h n'
    obtain rfl := Json.num.inj (hm.symm.trans hk)
    obtain rfl := Json.num.inj (hm'.symm.trans hk')
    rw [hvalue, hvalue']
    exact clampValue_mono e.min e.max hle

/-- A slider that starts at a half. The least float that no signed word holds, an integer that is out of range on
either side, and one that is not. -/
theorem clamping_laws_slider :
    let e : Element := { id := "s", type := .slider, min := some 0.5, max := some 10.0 }
    let zero : Number := .int 0 (by decide)
    let three : Number := .int 3 (by decide)
    let large : Number := .int 18446744073709551615 (by decide)
    (∃ n, numberOfFloat 9223372036854775808.0 = .num n ∧ n.value = floatValue 9223372036854775808.0) ∧
      e.capabilities.range = true ∧ BoundsInOrder e.min e.max ∧
      e.clamp (.str "x") = .str "x" ∧ Between e.min e.max three.toFloat ∧ e.clamp (.num three) = .num three ∧
      e.clamp (.num large) = .int 10 ∧ (∃ m, e.clamp (.num large) = .num m ∧ m.Within e.min e.max) ∧
      e.clamp (.num zero) = .ofFloat 0.5 ∧ zero.rounded ≤ three.rounded ∧
      (∀ m, e.clamp (.num zero) = .num m → m.rounded ≤ three.rounded) ∧
      e.clamp (e.clamp (.num large)) = e.clamp (.num large) := by
  intro e zero three large
  obtain ⟨hwritten, hlaws⟩ := clamping_laws
  obtain ⟨hleft, hstays, hrange, htwice⟩ := hlaws e
  have hbounds : BoundsInOrder e.min e.max := by decide
  have hbetween : Between e.min e.max three.toFloat := by decide
  obtain ⟨-, hwithin, hmono⟩ := hrange rfl hbounds
  obtain ⟨n, hn, hvalue, -⟩ := hwritten 9223372036854775808.0 (by decide)
  have htext : ¬∃ n, Json.str "x" = .num n := by
    rintro ⟨n, hn⟩
    cases hn
  have hzero : zero.rounded = 0 := rfl
  have hthree : three.rounded = 3 := Number.exact_of_natAbs_le _ (by decide)
  have hle : zero.rounded ≤ three.rounded := by rw [hzero, hthree]; norm_num
  exact ⟨⟨n, hn, hvalue⟩, rfl, hbounds, hleft _ (.inr htext), hbetween, hstays _ hbetween, by decide, hwithin large,
    by decide, hle, fun m hm => hmono _ _ _ _ hle hm (hstays _ hbetween), htwice _⟩

end Element

end LiveForm

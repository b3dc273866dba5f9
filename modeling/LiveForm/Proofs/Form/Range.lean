import LiveForm.Form.Snapshot
import LiveForm.Proofs.Decimal.Exact
import LiveForm.Proofs.Decimal.Order

/-!
# Numbers within their range

A number that is put into an element ends between the bounds of the element, if these are finite and in
order (`clampFloat_between`). It may be written anew on its way, as a number with the same place
(`numberOfFloat_beq`), and the bounds do not tell the two apart. So an element **keeps its range** from the
first value that is put into it (`Element.keepsRange_withValueOf`).
-/

namespace LiveForm

open Place

variable {x y lo : Float} {min max : Option Float}

/-! ## The greater and the smaller of two floats -/

theorem maxFloat_eq_or (x y : Float) : maxFloat x y = x ∨ maxFloat x y = y := by
  rw [maxFloat]
  split
  · exact .inr rfl
  · split
    · exact .inl rfl
    · split
      · exact .inr rfl
      · exact .inl rfl

theorem minFloat_eq_or (x y : Float) : minFloat x y = x ∨ minFloat x y = y := by
  rw [minFloat]
  split
  · exact .inr rfl
  · split
    · exact .inl rfl
    · split
      · exact .inr rfl
      · exact .inl rfl

theorem le_maxFloat (hx : x.isNaN = false) (hy : y.isNaN = false) : y ≤ maxFloat x y := by
  rw [maxFloat, hx, hy]
  simp only [Bool.false_eq_true, if_false]
  split
  · exact le_self hy
  · next h => exact le_of_not_lt hy hx h

theorem minFloat_le (hx : x.isNaN = false) (hy : y.isNaN = false) : minFloat x y ≤ y := by
  rw [minFloat, hx, hy]
  simp only [Bool.false_eq_true, if_false]
  split
  · exact le_self hy
  · next h => exact le_of_not_lt hx hy h

/-- The smaller of two floats is above what both are above. -/
theorem le_minFloat (hx : lo ≤ x) (hy : lo ≤ y) : lo ≤ minFloat x y := by
  rcases minFloat_eq_or x y with h | h
  · rwa [h]
  · rwa [h]

/-! ## Between two bounds -/

/-- Bounds that are finite and in order. -/
structure BoundsInOrder (min max : Option Float) : Prop where
  min_finite : ∀ lo ∈ min, lo.isFinite = true
  max_finite : ∀ hi ∈ max, hi.isFinite = true
  ordered : ∀ lo ∈ min, ∀ hi ∈ max, lo ≤ hi

/-- A float on the right side of those bounds that are set. -/
structure Between (min max : Option Float) (x : Float) : Prop where
  above : ∀ lo ∈ min, lo ≤ x
  below : ∀ hi ∈ max, x ≤ hi

instance (min max : Option Float) : Decidable (BoundsInOrder min max) :=
  decidable_of_iff
    ((∀ lo ∈ min, lo.isFinite = true) ∧ (∀ hi ∈ max, hi.isFinite = true) ∧
      ∀ lo ∈ min, ∀ hi ∈ max, lo ≤ hi)
    ⟨fun ⟨hmin, hmax, horder⟩ => ⟨hmin, hmax, horder⟩,
      fun ⟨hmin, hmax, horder⟩ => ⟨hmin, hmax, horder⟩⟩

instance (min max : Option Float) (x : Float) : Decidable (Between min max x) :=
  decidable_of_iff ((∀ lo ∈ min, lo ≤ x) ∧ ∀ hi ∈ max, x ≤ hi)
    ⟨fun ⟨habove, hbelow⟩ => ⟨habove, hbelow⟩, fun ⟨habove, hbelow⟩ => ⟨habove, hbelow⟩⟩

theorem Between.of_beq (h : Between min max x) (hxy : (y == x) = true) : Between min max y where
  above lo hlo := (beq_le hxy).2 (h.above lo hlo)
  below hi hhi := (le_of_beq hxy).2 (h.below hi hhi)

/-- Clamping raises a float to the lower bound and then lowers it to the upper one. -/
theorem clampFloat_eq (min max : Option Float) (x : Float) :
    clampFloat min max x = clampFloat none max (clampFloat min none x) := by
  cases max <;> rfl

theorem isFinite_raised (h : BoundsInOrder min max) (hx : x.isFinite = true) :
    (clampFloat min none x).isFinite = true := by
  cases hmin : min with
  | none => exact hx
  | some lo =>
    show (maxFloat x lo).isFinite = true
    rcases maxFloat_eq_or x lo with heq | heq
    · rwa [heq]
    · rw [heq]
      exact h.min_finite lo hmin

theorem isFinite_lowered (h : BoundsInOrder min max) (hx : x.isFinite = true) :
    (clampFloat none max x).isFinite = true := by
  cases hmax : max with
  | none => exact hx
  | some hi =>
    show (minFloat x hi).isFinite = true
    rcases minFloat_eq_or x hi with heq | heq
    · rwa [heq]
    · rw [heq]
      exact h.max_finite hi hmax

/-- A float that is clamped moves no further than to a bound. -/
theorem isFinite_clampFloat (h : BoundsInOrder min max) (hx : x.isFinite = true) :
    (clampFloat min max x).isFinite = true := by
  rw [clampFloat_eq]
  exact isFinite_lowered h (isFinite_raised h hx)

/-- **A float that is clamped is between its bounds.** -/
theorem clampFloat_between (h : BoundsInOrder min max) (hx : x.isFinite = true) :
    Between min max (clampFloat min max x) := by
  have hraised := isNaN_of_isFinite (isFinite_raised h hx)
  rw [clampFloat_eq]
  constructor
  · intro lo hlo
    have habove : lo ≤ clampFloat min none x := by
      rw [hlo]
      exact le_maxFloat (isNaN_of_isFinite hx) (isNaN_of_isFinite (h.min_finite lo hlo))
    cases hmax : max with
    | none => exact habove
    | some hi =>
      -- lowering it stops at the upper bound, which is not below the lower one
      exact le_minFloat habove (h.ordered lo hlo hi hmax)
  · intro hi hhi
    rw [hhi]
    exact minFloat_le hraised (isNaN_of_isFinite (h.max_finite hi hhi))

/-! ## In an element -/

/-- **A float written as a number** keeps its place. -/
theorem numberOfFloat_beq {x : Float} (hx : x.isFinite = true) :
    ∃ n, numberOfFloat x = .num n ∧ (n.toFloat == x) = true := by
  have hreal : ∃ n, Json.ofFloat x = .num n ∧ (n.toFloat == x) = true :=
    ⟨.real x hx, Json.ofFloat_of_isFinite hx, beq_self (unpack_ne_nan_of_isFinite hx)⟩
  rw [numberOfFloat]
  split
  · next n hn =>
    split
    · next hword => exact ⟨_, rfl, toFloat_beq hn _⟩
    · exact hreal
  · exact hreal

namespace Element

/-- The element's value, if it is a number, is between its bounds. -/
def InRange (e : Element) : Prop := ∀ n, e.value = .num n → Between e.min e.max n.toFloat

/-- An element that has a range, with bounds that are finite and in order, has its value there. -/
def KeepsRange (e : Element) : Prop :=
  e.capabilities.range = true → BoundsInOrder e.min e.max → e.InRange

instance (e : Element) : Decidable e.InRange :=
  match h : e.value with
  | .num n =>
    decidable_of_iff (Between e.min e.max n.toFloat)
      ⟨fun hn _ hm => Json.num.inj (h.symm.trans hm) ▸ hn, fun hn => hn n h⟩
  | .null | .bool _ | .str _ | .arr _ | .obj _ => isTrue fun _ hn => nomatch h.symm.trans hn

instance (e : Element) : Decidable e.KeepsRange := inferInstanceAs (Decidable (_ → _ → _))

/-- A number put into an element is within its range. -/
theorem inRange_clamp {e : Element} (hrange : e.capabilities.range = true)
    (h : BoundsInOrder e.min e.max) {value : Json} {n : Number} (hn : e.clamp value = .num n) :
    Between e.min e.max n.toFloat := by
  rw [clamp.eq_def, if_pos hrange] at hn
  cases value with
  | num written =>
    have hbetween := clampFloat_between h written.isFinite_toFloat
    simp only at hn
    split at hn
    · next heq =>
      -- it was in range, and stays as it was written
      obtain rfl := Json.num.inj hn
      exact hbetween.of_beq (beq_symm heq)
    · -- it has moved to a bound, which is written as an integer where it is one
      obtain ⟨m, hm, hbeq⟩ := numberOfFloat_beq (isFinite_clampFloat h written.isFinite_toFloat)
      obtain rfl := Json.num.inj (hm.symm.trans hn)
      exact hbetween.of_beq hbeq
  | _ => cases hn

/-- **Whatever value is put into an element**, the element keeps its range. -/
theorem keepsRange_withValueOf (e : Element) (value : Json) :
    (Snapshot.withValueOf e value).KeepsRange :=
  fun hrange h _ hn => inRange_clamp hrange h hn

end Element

end LiveForm

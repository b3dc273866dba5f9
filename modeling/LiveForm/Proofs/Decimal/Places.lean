import Mathlib
import LiveForm.Decimal.Binary

/-!
# Floats on a line

The comparison of floats goes through cases of signs, zeros and infinities. Here every float except NaN
gets a **place**: three integers that are compared one after the other. The order of floats is the order
of their places (`compare_eq_order`), so equality of floats is equality of places (`beq_iff_place`), which
makes it symmetric and transitive at once, and reflexive wherever there is a place. A finite float has one.
-/

namespace LiveForm.Place

open Float.Model Float.Model.UnpackedFloat

/-- Where a float lies: its side of zero, and then its exponent and its mantissa, counted away from
zero. Both zeros are at one place, and NaN is nowhere. -/
def of? : UnpackedFloat → Option (Int × Int × Int)
  | .notANumber => none
  | .infinity .positive => some (2, 0, 0)
  | .infinity .negative => some (-2, 0, 0)
  | .zero _ => some (0, 0, 0)
  | .finite .positive m e _ => some (1, e, m)
  | .finite .negative m e _ => some (-1, -e, -m)

/-- The order of places. -/
def order (p q : Int × Int × Int) : Ordering :=
  (compare p.1 q.1).then ((compare p.2.1 q.2.1).then (compare p.2.2 q.2.2))

theorem order_eq_iff {p q : Int × Int × Int} : order p q = .eq ↔ p = q := by
  obtain ⟨s, e, m⟩ := p
  obtain ⟨s', e', m'⟩ := q
  simp only [order, Ordering.then_eq_eq, Int.compare_eq_eq, Prod.mk.injEq]

theorem compare_neg (a b : Int) : compare (-a) (-b) = (compare a b).swap := by
  rw [Int.compare_swap, Int.compare_eq_ite_lt, Int.compare_eq_ite_lt]
  simp only [Int.neg_lt_neg_iff]

theorem compare_natCast (a b : Nat) : compare (a : Int) (b : Int) = compare a b := by
  rw [Int.compare_eq_ite_lt, Nat.compare_eq_ite_lt]
  simp only [Int.ofNat_lt]

/-- **The order of floats is the order of their places.** What is nowhere is not comparable. -/
theorem compare_eq_order (x y : UnpackedFloat) :
    x.compare y = (of? x).bind fun p => (of? y).map fun q => order p q := by
  cases x with
  | notANumber => cases y <;> rfl
  | infinity s =>
    cases y with
    | notANumber => cases s <;> rfl
    | infinity t => cases s <;> cases t <;> rfl
    | zero t => cases s <;> rfl
    | finite t n f hn => cases s <;> cases t <;> rfl
  | zero s =>
    cases y with
    | notANumber => rfl
    | infinity t => cases t <;> rfl
    | zero t => rfl
    | finite t n f hn => cases t <;> rfl
  | finite s m e hm =>
    cases y with
    | notANumber => cases s <;> rfl
    | infinity t => cases s <;> cases t <;> rfl
    | zero t => cases s <;> rfl
    | finite t n f hn =>
      cases s with
      | negative =>
        cases t with
        | negative =>
          simp only [UnpackedFloat.compare, of?, Option.bind_some, Option.map_some, order,
            compare_neg, compare_natCast, Ordering.swap_then]
          rfl
        | positive => rfl
      | positive =>
        cases t with
        | negative => rfl
        | positive =>
          simp only [UnpackedFloat.compare, of?, Option.bind_some, Option.map_some, order,
            compare_natCast]
          rfl

theorem of?_ne_none {x : UnpackedFloat} (h : x ≠ .notANumber) : ∃ p, of? x = some p := by
  cases x with
  | notANumber => exact absurd rfl h
  | infinity s => cases s <;> exact ⟨_, rfl⟩
  | zero s => exact ⟨_, rfl⟩
  | finite s m e hm => cases s <;> exact ⟨_, rfl⟩

/-! ## Floats as they are stored -/

/-- Where a stored float lies. -/
def ofFloat? (x : Float) : Option (Int × Int × Int) := of? x.toModel.unpack

/-- **Floats are equal when they are at one place.** -/
theorem beq_iff_place {x y : Float} :
    (x == y) = true ↔ ∃ p, ofFloat? x = some p ∧ ofFloat? y = some p := by
  show (x.toModel.unpack.compare y.toModel.unpack == some .eq) = true ↔ _
  rw [beq_iff_eq, compare_eq_order]
  constructor
  · intro h
    obtain ⟨p, hp, h⟩ := Option.bind_eq_some_iff.1 h
    obtain ⟨q, hq, h⟩ := Option.map_eq_some_iff.1 h
    obtain rfl := order_eq_iff.1 h
    exact ⟨p, hp, hq⟩
  · rintro ⟨p, hp, hq⟩
    rw [show of? x.toModel.unpack = some p from hp, show of? y.toModel.unpack = some p from hq]
    simp only [Option.bind_some, Option.map_some, order_eq_iff.2 rfl]

theorem beq_symm {x y : Float} (h : (x == y) = true) : (y == x) = true := by
  obtain ⟨p, hx, hy⟩ := beq_iff_place.1 h
  exact beq_iff_place.2 ⟨p, hy, hx⟩

theorem beq_trans {x y z : Float} (h : (x == y) = true) (h' : (y == z) = true) :
    (x == z) = true := by
  obtain ⟨p, hx, hy⟩ := beq_iff_place.1 h
  obtain ⟨q, hy', hz⟩ := beq_iff_place.1 h'
  obtain rfl : p = q := Option.some.inj (hy.symm.trans hy')
  exact beq_iff_place.2 ⟨p, hx, hz⟩

theorem beq_self {x : Float} (h : x.toModel.unpack ≠ .notANumber) : (x == x) = true := by
  obtain ⟨p, hp⟩ := of?_ne_none h
  exact beq_iff_place.2 ⟨p, hp, hp⟩

theorem unpack_ne_nan_of_isFinite {x : Float} (h : x.isFinite = true) :
    x.toModel.unpack ≠ .notANumber := by
  intro hx
  have : x.toModel.unpack.isFinite = true := h
  rw [hx] at this
  cases this

end LiveForm.Place

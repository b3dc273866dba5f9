import LiveForm.Power

/-!
# Finite floats as exact binary fractions

A finite 64-bit float is `± m · 2 ^ e` for a natural `m` and an integer `e`. This module reads that
triple off a float (`Binary.ofFloat?`) and answers the two questions the library asks of it without
rounding: which integer the float is, if it is one (`Binary.toInt?`), and how it compares with an
integer. Text output (`LiveForm.Decimal.Shortest`) starts from the same triple, so no digit printed
anywhere depends on float arithmetic.
-/

namespace LiveForm

/-- The exact value of a finite float: `mantissa * 2 ^ exponent`, negated if `negative`. -/
structure Binary where
  negative : Bool
  mantissa : Nat
  exponent : Int
  deriving DecidableEq, Repr

namespace Binary

/-- The exact value of a float, or `none` for the infinities and for NaN. -/
def ofFloat? (x : Float) : Option Binary :=
  match x.toModel.unpack with
  | .zero .positive => some ⟨false, 0, 0⟩
  | .zero .negative => some ⟨true, 0, 0⟩
  | .finite .positive m e _ => some ⟨false, m, e⟩
  | .finite .negative m e _ => some ⟨true, m, e⟩
  | .infinity _ => none
  | .notANumber => none

/-- The integer part of the magnitude. -/
def floorAbs (b : Binary) : Nat :=
  if 0 ≤ b.exponent then b.mantissa * 2 ^ b.exponent.toNat
  else b.mantissa / 2 ^ (-b.exponent).toNat

/-- Whether nothing follows the binary point. -/
def isIntegral (b : Binary) : Bool :=
  decide (0 ≤ b.exponent) || b.mantissa % 2 ^ (-b.exponent).toNat == 0

/-- The value rounded toward zero. -/
def truncate (b : Binary) : Int :=
  if b.negative then -(b.floorAbs : Int) else b.floorAbs

/-- The integer this value is, or `none` if it has a fraction. -/
def toInt? (b : Binary) : Option Int :=
  if b.isIntegral then some b.truncate else none

end Binary

end LiveForm

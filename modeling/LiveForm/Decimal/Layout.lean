import LiveForm.Decimal.Shortest

/-!
# Layouts of decimal text

Where the point stands, when an exponent is written and how: the decisions a format makes about the
digits of `LiveForm.Decimal.Shortest`. A `Layout` records them, and `Float.render` writes a float
accordingly.
-/

namespace LiveForm.Decimal

/-- How a format writes a finite float. Decimal exponents are those of scientific notation: `d.ddd`
has exponent `0`. -/
structure Layout where
  /-- The least decimal exponent written with a plain point. -/
  plainFrom : Int
  /-- The greatest decimal exponent written with a plain point. -/
  plainTo : Int
  /-- Whether exponents of at least zero get a plus sign. -/
  plus : Bool
  /-- Whether zero keeps its sign. -/
  signedZero : Bool

def digitText (ds : List Nat) : String :=
  String.ofList (ds.map fun d => Char.ofNat ('0'.toNat + d))

def zeros (n : Nat) : String := String.ofList (List.replicate n '0')

/-- The digits around a plain point, with at least one digit on each side. -/
def Digits.plain (d : Digits) : String :=
  let n : Int := d.digits.length
  if d.point ≤ 0 then "0." ++ zeros (-d.point).toNat ++ digitText d.digits
  else if n ≤ d.point then digitText d.digits ++ zeros (d.point - n).toNat ++ ".0"
  else digitText (d.digits.take d.point.toNat) ++ "." ++ digitText (d.digits.drop d.point.toNat)

/-- One digit, the others after a point if there are any, and the exponent. -/
def Digits.scientific (d : Digits) (plus : Bool) : String :=
  let e := d.point - 1
  let mark := if plus && decide (0 ≤ e) then "e+" else "e"
  let fraction := if d.digits.length ≤ 1 then "" else "." ++ digitText (d.digits.drop 1)
  digitText (d.digits.take 1) ++ fraction ++ mark ++ toString e

/-- The digits as the layout wants them. -/
def Digits.render (d : Digits) (l : Layout) : String :=
  let e := d.point - 1
  if l.plainFrom ≤ e ∧ e ≤ l.plainTo then d.plain else d.scientific l.plus

/-- A finite float as text, or `none` for the infinities and NaN. -/
def render? (l : Layout) (x : Float) : Option String :=
  (Binary.ofFloat? x).map fun b =>
    let sign := if b.negative && (l.signedZero || b.mantissa != 0) then "-" else ""
    if b.mantissa = 0 then sign ++ "0.0" else sign ++ (shortest b.mantissa b.exponent).render l

/-- The words for the floats that are not finite. -/
def nonFinite (x : Float) : String :=
  if x.isNaN then "NaN" else if x < 0.0 then "-inf" else "inf"

/-- A float as text. -/
def render (l : Layout) (x : Float) : String := (render? l x).getD (nonFinite x)

end LiveForm.Decimal

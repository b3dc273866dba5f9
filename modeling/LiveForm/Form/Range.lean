import LiveForm.Form.Element

/-!
# Values kept in range

Number and slider elements keep numeric values between their bounds. `clamp` leaves a value that is
within its bounds exactly as it was written; a value that has to move becomes the bound itself, as an
integer where the bound is one.
-/

namespace LiveForm

/-- The JSON number of a float: an integer if it is integral and below `2 ^ 63` in size, and `null`
for the infinities and NaN. -/
def numberOfFloat (x : Float) : Json :=
  match (Binary.ofFloat? x).bind Binary.toInt? with
  | some n =>
    if h : n.natAbs < 2 ^ 63 then .num (.int n ⟨by omega, by omega⟩) else .ofFloat x
  | none => .ofFloat x

/-- The greater of two floats; a NaN loses against any other. -/
def maxFloat (x y : Float) : Float :=
  if x.isNaN then y else if y.isNaN then x else if x < y then y else x

/-- The smaller of two floats; a NaN loses against any other. -/
def minFloat (x y : Float) : Float :=
  if x.isNaN then y else if y.isNaN then x else if y < x then y else x

/-- A float moved to the nearest bound it crosses, the upper bound last. -/
def clampFloat (min max : Option Float) (x : Float) : Float :=
  let x := match min with
    | some lo => maxFloat x lo
    | none => x
  match max with
  | some hi => minFloat x hi
  | none => x

/-- A value moved into the range of an element. Only numbers move, and only in elements that have a
range. -/
def Element.clamp (e : Element) (value : Json) : Json :=
  if e.capabilities.range then
    match value with
    | .num n =>
      let x := clampFloat e.min e.max n.toFloat
      if x == n.toFloat then value else numberOfFloat x
    | _ => value
  else value

end LiveForm

import LiveForm.Decimal.Binary

/-!
# The fewest digits that read back

A float is written with as few decimal digits as identify it among all floats, and of the decimals of
that length with the nearest. The float's neighbours bound an interval of reals that round to it
(ends included exactly when the mantissa is even); for `1, 2, … 17` digits the two decimals of that
length next to the exact value are tried against the interval. All of it is arithmetic on natural
numbers: a real `r` is a fraction `num / den`.
-/

namespace LiveForm.Decimal

/-- A positive decimal `0.d₁d₂…dₙ · 10 ^ point` with `d₁ ≠ 0`. -/
structure Digits where
  digits : List Nat
  point : Int
  deriving DecidableEq, Repr

/-- The digits of `n`, most significant first. -/
def digitsOf (n : Nat) : List Nat := (Nat.toDigits 10 n).map fun c => c.toNat - '0'.toNat

/-- How many digits `n` has. -/
def width (n : Nat) : Nat := (Nat.toDigits 10 n).length

/-- `num / den` scaled by `10 ^ k`, for a `k` of either sign. -/
def scale (num den : Nat) (k : Int) : Nat × Nat :=
  if 0 ≤ k then (num * 10 ^ k.toNat, den) else (num, den * 10 ^ (-k).toNat)

/-- How many more powers of ten lift `num / den` (below one) to at least one. -/
def leadingZeros (num den : Nat) : (fuel : Nat) → Nat
  | 0 => 0
  | fuel + 1 => if den ≤ num * 10 then 0 else 1 + leadingZeros (num * 10) den fuel

/-- The `p` with `10 ^ (p - 1) ≤ num / den < 10 ^ p`. -/
def magnitude (num den : Nat) : Int :=
  if den ≤ num then width (num / den) else -(leadingZeros num den 400 : Int)

/-- The reals that round to a float, around its own value, over one denominator. -/
structure Interval where
  low : Nat
  value : Nat
  high : Nat
  den : Nat
  closed : Bool

/-- The rounding interval of `mantissa · 2 ^ exponent`. Below a power of two the gap is half as wide,
except at the bottom of the normal range. -/
def Interval.of (mantissa : Nat) (exponent : Int) : Interval :=
  let (num, den) :=
    if 0 ≤ exponent then (2 ^ exponent.toNat, 1) else (1, 2 ^ (-exponent).toNat)
  let narrow := mantissa == 2 ^ 52 && decide (-1074 < exponent)
  { low := (4 * mantissa - if narrow then 1 else 2) * num
    value := 4 * mantissa * num
    high := (4 * mantissa + 2) * num
    den := 4 * den
    closed := mantissa % 2 == 0 }

/-- Whether the decimal `c · 10 ^ k` lies in the interval. -/
def Interval.contains (i : Interval) (c : Nat) (k : Int) : Bool :=
  let (num, den) := scale c 1 k
  let x := num * i.den
  if i.closed then decide (i.low * den ≤ x ∧ x ≤ i.high * den)
  else decide (i.low * den < x ∧ x < i.high * den)

/-- The nearest decimal of `n` digits that rounds to the float, of two as near the even one. -/
def Interval.nearest? (i : Interval) (point : Int) (n : Nat) : Option (Nat × Int) :=
  let k := point - n
  let (num, den) := scale i.value i.den (-k)
  let c := num / den
  let below := i.contains c k && c != 0
  let above := i.contains (c + 1) k
  match below, above with
  | true, true =>
    let twice := 2 * (num % den)
    if twice < den || twice == den && c % 2 == 0 then some (c, k) else some (c + 1, k)
  | true, false => some (c, k)
  | false, true => some (c + 1, k)
  | false, false => none

/-- The shortest decimal of the interval with at least `n` digits. -/
def Interval.shortest (i : Interval) (point : Int) (n : Nat) : (fuel : Nat) → Nat × Int
  | 0 => (i.value / i.den, 0)
  | fuel + 1 =>
    match i.nearest? point n with
    | some found => found
    | none => i.shortest point (n + 1) fuel

/-- The digits of a decimal without trailing zeros, and where its point stands. -/
def Digits.ofDecimal (c : Nat) (k : Int) : Digits :=
  let ds := digitsOf c
  { digits := (ds.reverse.dropWhile (· == 0)).reverse, point := ds.length + k }

/-- The shortest digits of a positive binary fraction. -/
def shortest (mantissa : Nat) (exponent : Int) : Digits :=
  let i := Interval.of mantissa exponent
  let (c, k) := i.shortest (magnitude i.value i.den) 1 18
  .ofDecimal c k

end LiveForm.Decimal

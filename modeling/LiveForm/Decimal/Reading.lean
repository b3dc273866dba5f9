import LiveForm.Decimal.Shortest

/-!
# Reading decimals

The float nearest to a decimal (`nearest`), and the grammar of decimals that texts are tried against
(`Reading.read?`): a sign, digits with or without a point among or next to them, and an exponent.
-/

namespace LiveForm.Decimal

/-- The float nearest to `mantissa · 10 ^ exponent`. -/
def nearest (mantissa : Nat) (exponent : Int) : Float :=
  let size : Int := exponent + width mantissa
  if mantissa = 0 ∨ size < -400 then 0.0
  else if 400 < size then Float.ofScientific 1 false 400
  else Float.ofScientific mantissa (decide (exponent < 0)) exponent.natAbs

namespace Reading

def isDigit (c : Char) : Bool := '0' ≤ c && c ≤ '9'

/-- The number a row of decimal digits writes. -/
def valueOfDigits (ds : List Char) : Nat :=
  ds.foldl (fun n d => 10 * n + (d.toNat - '0'.toNat)) 0

/-- The sign at the start of a text, and what follows it. -/
def sign : List Char → Bool × List Char
  | '-' :: rest => (true, rest)
  | '+' :: rest => (false, rest)
  | cs => (false, cs)

/-- The value of an exponent after its letter, or `none` if it is not digits to the end. -/
def exponent? (cs : List Char) : Option Int :=
  let (negative, ds) := sign cs
  if ds.isEmpty || !ds.all isDigit then none
  else
    let e : Int := valueOfDigits ds
    some (if negative then -e else e)

/-- A decimal without a sign: digits, a point and digits, and an exponent. There is a digit on one side
of the point. -/
def unsigned? (cs : List Char) : Option Float :=
  let (whole, rest) := cs.span isDigit
  let (fraction, rest) := match rest with
    | '.' :: after => after.span isDigit
    | _ => ([], rest)
  if whole.isEmpty && fraction.isEmpty then none
  else
    let mantissa := valueOfDigits (whole ++ fraction)
    match rest with
    | [] => some (nearest mantissa (-fraction.length))
    | c :: after =>
      if c = 'e' ∨ c = 'E' then
        (exponent? after).map fun e => nearest mantissa (e - fraction.length)
      else none

/-- A decimal with or without a sign. -/
def read? (cs : List Char) : Option Float :=
  let (negative, rest) := sign cs
  (unsigned? rest).map fun x => if negative then -x else x

/-- The lower-case forms of the words for what is no decimal. -/
def wordValue? (cs : List Char) : Option Float :=
  let word := String.ofList (cs.map Char.toLower)
  if word == "inf" || word == "infinity" then some (1.0 / 0.0)
  else if word == "nan" then some (0.0 / 0.0)
  else none

/-- A decimal, or a word for an infinity or for NaN in letters of any case, with or without a sign. -/
def readAny? (cs : List Char) : Option Float :=
  let (negative, rest) := sign cs
  match unsigned? rest with
  | some x => some (if negative then -x else x)
  | none => (wordValue? rest).map fun x => if negative then -x else x

end Reading

end LiveForm.Decimal

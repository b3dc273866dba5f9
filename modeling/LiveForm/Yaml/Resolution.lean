import LiveForm.Decimal.Reading
import LiveForm.Json
import LiveForm.Yaml.Node

/-!
# What scalars stand for

A plain scalar stands for null, a truth value or a number if it is written like one, and for its own text
otherwise. A scalar in quotes or in a block is a text. A tag may ask for one of these readings. A number
that is written with zeros in front is a text; so is a float that is out of range.
-/

namespace LiveForm.Yaml

namespace Resolution

def isNull (s : String) : Bool := s == "null" || s == "Null" || s == "NULL" || s == "~"

def flag? (s : String) : Option Bool :=
  if s == "true" || s == "True" || s == "TRUE" then some true
  else if s == "false" || s == "False" || s == "FALSE" then some false
  else none

/-! ## Integers -/

/-- The digits of a base. -/
def digit? (base : Nat) (c : Char) : Option Nat :=
  let value := if '0' ≤ c && c ≤ '9' then some (c.toNat - '0'.toNat)
    else if 'a' ≤ c && c ≤ 'f' then some (c.toNat - 'a'.toNat + 10)
    else if 'A' ≤ c && c ≤ 'F' then some (c.toNat - 'A'.toNat + 10)
    else none
  value.filter (· < base)

/-- The number that a row of digits writes. -/
def natural? (base : Nat) (cs : List Char) : Option Nat := do
  if cs.isEmpty then none
  let digits ← cs.mapM (digit? base)
  return digits.foldl (base * · + ·) 0

/-- The base of a number that starts with zero and a letter, and its digits. -/
def based? : List Char → Option (Nat × List Char)
  | '0' :: 'x' :: rest => some (16, rest)
  | '0' :: 'o' :: rest => some (8, rest)
  | '0' :: 'b' :: rest => some (2, rest)
  | _ => none

/-- Whether a text is a row of digits with a zero in front. -/
def hasLeadingZero (cs : List Char) : Bool :=
  let digits := match cs with
    | '-' :: rest | '+' :: rest => rest
    | _ => cs
  match digits with
  | '0' :: c :: rest => (c :: rest).all Decimal.Reading.isDigit
  | _ => false

/-- A natural number in any base; without a sign or, if `cs` is not all of the text, after one. -/
def magnitude? (cs : List Char) : Option Nat :=
  match based? cs with
  | some (base, digits) => natural? base digits
  | none => if hasLeadingZero cs then none else natural? 10 cs

/-- An integer. -/
def integer? (s : String) : Option Int :=
  match s.toList with
  | '-' :: rest => (magnitude? rest).map fun n => -(n : Int)
  | '+' :: rest => (magnitude? rest).map fun n => (n : Int)
  | cs => (magnitude? cs).map fun n => (n : Int)

/-- A natural number of 64 bits. -/
def count? (s : String) : Option Nat :=
  if s.startsWith "-" then none else ((integer? s).map Int.toNat).filter (· < 2 ^ 64)

/-! ## Floats -/

/-- A float, an infinity or NaN. -/
def float? (s : String) : Option Float :=
  let unsigned := match s.toList with
    | '+' :: rest => rest
    | cs => cs
  let word := String.ofList unsigned
  if s.startsWith "++" || s.startsWith "+-" then none
  else if word == ".inf" || word == ".Inf" || word == ".INF" then some (1.0 / 0.0)
  else if s == "-.inf" || s == "-.Inf" || s == "-.INF" then some (-1.0 / 0.0)
  else if s == ".nan" || s == ".NaN" || s == ".NAN" then some (0.0 / 0.0)
  else (Decimal.Reading.read? unsigned).filter (·.isFinite)

/-! ## Values -/

/-- The greatest magnitude that is looked at as an integer: beyond it a row of digits is a float. -/
def isWide (n : Int) : Bool := n < -2 ^ 127 || 2 ^ 128 ≤ n

/-- An integer as a value. One that does not fit a word of 64 bits is none. -/
def integerValue? (n : Int) : Option Json :=
  if h : InWordRange n then some (.num (.int n h)) else none

/-- A float as a value; an infinity and NaN are null. -/
def floatValue (x : Float) : Json := ((Number.ofFloat? x).map Json.num).getD .null

/-- The value of a plain scalar. There is none for integers that are too great. -/
def plainValue? (s : String) : Option Json :=
  if s.isEmpty || isNull s then some .null
  else
    match flag? s with
    | some b => some (.bool b)
    | none =>
      match (integer? s).filter (!isWide ·) with
      | some n => integerValue? n
      | none =>
        if hasLeadingZero s.toList then some (.str s)
        else some (((float? s).map floatValue).getD (.str s))

/-- The name of a tag of the notation itself. -/
def standardTag (name : String) : String := "tag:yaml.org,2002:" ++ name

/-- Whether a tag is one of the document's own. -/
def isLocal (tag : String) : Bool := tag.startsWith "!"

/-- The value of a scalar. There is none if it is not what its tag says, or if the tag is a local one. -/
def scalarValue? (tag : Option String) (style : Style) (s : String) : Option Json :=
  match tag with
  | none => if style = .plain then plainValue? s else some (.str s)
  | some tag =>
    if isLocal tag then none
    else if tag == standardTag "bool" then (flag? s).map .bool
    else if tag == standardTag "int" then
      ((integer? s).filter (!isWide ·)).bind integerValue?
    else if tag == standardTag "float" then (float? s).map floatValue
    else if tag == standardTag "null" then if isNull s then some .null else none
    else some (.str s)

end Resolution

end LiveForm.Yaml

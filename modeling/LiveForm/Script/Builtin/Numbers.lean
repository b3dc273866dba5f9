import LiveForm.Decimal.Reading
import LiveForm.Script.Builtin
import LiveForm.Script.Token
import LiveForm.Text.Blank

/-!
# Functions on numbers

Size, sign and parity, rounding, roots and angles, conversion between integers and floats, and numbers
read from texts. Mixed arguments of `min` and `max` become floats.
-/

namespace LiveForm.Script.Builtin

/-! ## Reading -/

/-- Why a text is no integer, in words. -/
def integerFlaw (base : Nat) (s : String) : Except String Int64 :=
  let (negative, ds) := match s.toList with
    | '-' :: rest => if rest.isEmpty then (false, ['-']) else (true, rest)
    | '+' :: rest => if rest.isEmpty then (false, ['+']) else (false, rest)
    | cs => (false, cs)
  if ds.isEmpty then .error "cannot parse integer from empty string"
  else
    match numberOfDigits? base ds with
    | none => .error "invalid digit found in string"
    | some n =>
      match Arithmetic.fit? (if negative then -(n : Int) else n) with
      | some k => .ok k
      | none =>
        .error (if negative then "number too small to fit in target type"
          else "number too large to fit in target type")

/-- The integer a text writes in a base. -/
def readInteger (s : String) (base : Int64) : Except Cause Value :=
  if base.toInt < 2 ∨ 36 < base.toInt then
    .error (.arithmetic ("Invalid radix: '" ++ toString base.toInt ++ "'"))
  else
    match integerFlaw base.toInt.toNat (Text.trim s) with
    | .ok n => .ok (.int n)
    | .error flaw => .error (.arithmetic ("Error parsing integer number '" ++ s ++ "': " ++ flaw))

/-- The float a text writes. -/
def readFloat (s : String) : Except Cause Value :=
  let cs := (Text.trim s).toList
  match Decimal.Reading.readAny? cs with
  | some x => .ok (.float x)
  | none =>
    let flaw := if cs.isEmpty then "cannot parse float from empty string" else "invalid float literal"
    .error (.arithmetic ("Error parsing floating-point number '" ++ s ++ "': " ++ flaw))

/-! ## Integers and floats -/

/-- The integer part of a float as an integer. The least float that is too large counts as the greatest
integer. -/
def integerOf (x : Float) : Except Cause Value :=
  let tooLarge (shown : String) : Except Cause Value :=
    .error (.arithmetic ("Integer overflow: to_int(" ++ shown ++ ")"))
  match Binary.ofFloat? x with
  | none => if x.isNaN then .ok (.int 0) else tooLarge (displayFloat x)
  | some b =>
    match Arithmetic.fit? (if b.truncate = 2 ^ 63 then 2 ^ 63 - 1 else b.truncate) with
    | some n => .ok (.int n)
    | none => tooLarge (toString b.truncate)

/-- The sign of a float. -/
def signOf (x : Float) : Except Cause Value :=
  if x.isNaN then .error (.arithmetic "Sign of NaN is undefined")
  else .ok (.int (if x == 0.0 then 0 else if x < 0.0 then -1 else 1))

/-- A number as a float. -/
def asFloat? : Value → Option Float
  | .int n => some n.toFloat
  | .float x => some x
  | _ => none

/-- One of two numbers, chosen by how they compare: the second one unless the first is better. -/
def chosen? (wantsGreater : Bool) (a b : Value) : Option Value :=
  match a, b with
  | .int m, .int n => some (.int (if (n.toInt ≤ m.toInt) == wantsGreater then m else n))
  | .byte m, .byte n => some (.byte (if (n ≤ m : Bool) == wantsGreater then m else n))
  | a, b => do
    let x ← asFloat? a
    let y ← asFloat? b
    let better : Bool := if wantsGreater then y < x else x < y
    return .float (if better then x else y)

/-- The digits of an integer in a base, as an unsigned word. -/
def digitsIn (base : Nat) (n : Int64) : String :=
  String.ofList (Nat.toDigits base (Arithmetic.bitsOf n))

/-- The digits of a number in a base. -/
def digitsOf (base : Nat) : List Value → Option (Except Cause Outcome)
  | [.int n] => answer (.text (digitsIn base n))
  | [.byte b] => answer (.text (digitsIn base (Int64.ofNat b.toNat)))
  | _ => none

/-! ## Functions by name -/

/-- The functions on one float, by name. -/
def floatFunction? : String → Option (Float → Float)
  | "sqrt" => some Float.sqrt
  | "floor" => some Float.floor
  | "ceiling" => some Float.ceil
  | "round" => some Float.round
  | "int" => some Arithmetic.integerPart
  | "fraction" => some fun x => x - Arithmetic.integerPart x
  | "sin" => some Float.sin
  | "cos" => some Float.cos
  | "tan" => some Float.tan
  | "sinh" => some Float.sinh
  | "cosh" => some Float.cosh
  | "tanh" => some Float.tanh
  | "asin" => some Float.asin
  | "acos" => some Float.acos
  | "atan" => some Float.atan
  | "asinh" => some Arithmetic.asinh
  | "acosh" => some Arithmetic.acosh
  | "atanh" => some Arithmetic.atanh
  | "exp" => some Float.exp
  | "ln" => some Float.log
  | "log" => some Float.log10
  | "to_radians" => some fun x => x * 0.017453292519943295
  | "to_degrees" => some fun x => x * 57.29577951308232
  | _ => none

/-- The tests on one float, by name. -/
def floatTest? : String → Option (Float → Bool)
  | "is_zero" => some fun x => x == 0.0
  | "is_nan" => some Float.isNaN
  | "is_finite" => some Float.isFinite
  | "is_infinite" => some Float.isInf
  | _ => none

/-- The tests on one integer, by name. -/
def intTest? : String → Option (Int64 → Bool)
  | "is_zero" => some fun n => n == 0
  | "is_odd" => some fun n => n.toInt % 2 == 1
  | "is_even" => some fun n => n.toInt % 2 == 0
  | _ => none

/-- The functions on numbers. -/
def numbers (name : String) : Option (List Value → Option (Except Cause Outcome)) :=
  match name with
  | "abs" => some fun
    | [.int n] => attempt (.int <$> Arithmetic.magnitude n)
    | [.float x] => answer (.float x.abs)
    | _ => none
  | "sign" => some fun
    | [.int n] => answer (.int (if n == 0 then 0 else if n.toInt < 0 then -1 else 1))
    | [.float x] => attempt (signOf x)
    | _ => none
  | "to_int" => some fun
    | [.int n] => answer (.int n)
    | [.float x] => attempt (integerOf x)
    | [.char c] => answer (.ofNat c.toNat)
    | [.byte b] => answer (.ofNat b.toNat)
    | _ => none
  | "to_float" => some fun
    | [.int n] => answer (.float n.toFloat)
    | [.float x] => answer (.float x)
    | [.byte b] => answer (.float (Float.ofNat b.toNat))
    | _ => none
  | "to_hex" => some (digitsOf 16)
  | "to_octal" => some (digitsOf 8)
  | "to_binary" => some (digitsOf 2)
  | "min" => some fun
    | [a, b] => (chosen? false a b).bind answer
    | _ => none
  | "max" => some fun
    | [a, b] => (chosen? true a b).bind answer
    | _ => none
  | "hypot" => some fun
    | [.float x, .float y] => answer (.float (Arithmetic.hypotenuse x y))
    | _ => none
  | "PI" => some fun args => if args.isEmpty then answer (.float 3.141592653589793) else none
  | "E" => some fun args => if args.isEmpty then answer (.float 2.718281828459045) else none
  | "parse_int" => some fun
    | [.text s] => attempt (readInteger s 10)
    | [.text s, .int base] => attempt (readInteger s base)
    | _ => none
  | "parse_float" => some fun
    | [.text s] => attempt (readFloat s)
    | _ => none
  | name => some fun
    | [.float x] =>
      match floatFunction? name, floatTest? name with
      | some f, _ => answer (.float (f x))
      | none, some test => answer (.bool (test x))
      | none, none => none
    | [.int n] => (intTest? name).bind fun test => answer (.bool (test n))
    | [.byte b] => (intTest? name).bind fun test => answer (.bool (test (Int64.ofNat b.toNat)))
    | [.float x, .float y] =>
      if name == "log" then answer (.float (x.log / y.log))
      else if name == "atan" then answer (.float (x.atan2 y))
      else none
    | _ => none

/-- The properties of integers and floats. -/
def numberProperty? (v : Value) (name : String) : Option Value :=
  match v with
  | .int n => (intTest? name).map fun test => .bool (test n)
  | .byte b => (intTest? name).map fun test => .bool (test (Int64.ofNat b.toNat))
  | .float x =>
    match floatTest? name with
    | some test => some (.bool (test x))
    | none =>
      if ["floor", "ceiling", "round", "int", "fraction"].contains name then
        (floatFunction? name).map fun f => .float (f x)
      else none
  | _ => none

end LiveForm.Script.Builtin

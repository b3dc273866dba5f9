import LiveForm.Decimal.Binary
import LiveForm.Script.Fault

/-!
# Arithmetic of scripts

Integers are computed exactly and have to fit 64 bits with a sign; where they do not, the operation is a
fault, as is a division by zero. Only shifts lose bits. Floats follow the usual rules and never fault.
-/

namespace LiveForm.Script.Arithmetic

/-- An integer as a word, if it fits one. -/
def fit? (n : Int) : Option Int64 :=
  if -2 ^ 63 ≤ n ∧ n < 2 ^ 63 then some (Int64.ofInt n) else none

/-- An integer as a word, or a fault with this message. -/
def fit (message : String) (n : Int) : Except Cause Int64 :=
  match fit? n with
  | some k => .ok k
  | none => .error (.arithmetic message)

/-- An operation on two integers, as messages show it. -/
def shown (a : Int64) (sign : String) (b : Int64) : String :=
  toString a.toInt ++ " " ++ sign ++ " " ++ toString b.toInt

def add (a b : Int64) : Except Cause Int64 :=
  fit ("Addition overflow: " ++ shown a "+" b) (a.toInt + b.toInt)

def subtract (a b : Int64) : Except Cause Int64 :=
  fit ("Subtraction overflow: " ++ shown a "-" b) (a.toInt - b.toInt)

def multiply (a b : Int64) : Except Cause Int64 :=
  fit ("Multiplication overflow: " ++ shown a "*" b) (a.toInt * b.toInt)

/-- The quotient rounded toward zero. -/
def divide (a b : Int64) : Except Cause Int64 :=
  if b = 0 then .error (.arithmetic ("Division by zero: " ++ shown a "/" b))
  else fit ("Division overflow: " ++ shown a "/" b) (a.toInt.tdiv b.toInt)

/-- The remainder of `divide`, with the sign of the dividend. -/
def remainder (a b : Int64) : Except Cause Int64 :=
  let message := "Modulo division by zero or overflow: " ++ shown a "%" b
  if b = 0 then .error (.arithmetic message)
  else
    match fit? (a.toInt.tdiv b.toInt) with
    | none => .error (.arithmetic message)
    | some _ => fit message (a.toInt.tmod b.toInt)

def power (a b : Int64) : Except Cause Int64 :=
  let message := "Exponential overflow: " ++ shown a "**" b
  let exponent := b.toInt.toNat
  if b.toInt < 0 then .error (.arithmetic ("Integer raised to a negative power: " ++ shown a "**" b))
  else if 2 ^ 32 ≤ exponent then .error (.arithmetic message)
  else if a.toInt.natAbs < 2 then
    .ok (if exponent = 0 then 1 else if a.toInt = -1 ∧ exponent % 2 = 0 then 1 else a)
  else if 64 ≤ exponent then .error (.arithmetic message)
  else fit message (a.toInt ^ exponent)

def negate (a : Int64) : Except Cause Int64 :=
  fit ("Negation overflow: -" ++ toString a.toInt) (-a.toInt)

def magnitude (a : Int64) : Except Cause Int64 :=
  if 0 ≤ a.toInt then .ok a else negate a

/-! ## Bits -/

/-- A number as the bits of a word. -/
def bitsOf (a : Int64) : Nat := a.toUInt64.toNat

/-- The word of these bits. -/
def ofBits (n : Nat) : Int64 := (UInt64.ofNat n).toInt64

/-- The bits moved up; those that leave the word are lost. By a negative amount they move down, and the
sign stays. -/
def shiftLeft (a : Int64) (amount : Int) : Int64 :=
  if 64 ≤ amount then 0
  else if amount ≤ -64 then if a.toInt < 0 then -1 else 0
  else if 0 ≤ amount then ofBits (bitsOf a * 2 ^ amount.toNat)
  else Int64.ofInt (a.toInt / 2 ^ (-amount).toNat)

/-- The bits moved down; the sign stays. By a negative amount they move up. -/
def shiftRight (a : Int64) (amount : Int) : Int64 := shiftLeft a (-amount)

/-- The bit at a place, counted from the lowest one. -/
def bit (a : Int64) (place : Nat) : Bool := (bitsOf a).testBit place

/-- The word with one bit changed. -/
def setBit (a : Int64) (place : Nat) (value : Bool) : Int64 :=
  if bit a place == value then a
  else if value then ofBits (bitsOf a + 2 ^ place)
  else ofBits (bitsOf a - 2 ^ place)

/-! ## Bytes -/

/-- A number as a byte, or a fault with this message. -/
def fitByte (message : String) (n : Int) : Except Cause Value :=
  if 0 ≤ n ∧ n < 256 then .ok (.byte (UInt8.ofNat n.toNat)) else .error (.arithmetic message)

/-- An operation on two bytes, as messages show it. -/
def shownBytes (a : UInt8) (sign : String) (b : UInt8) : String :=
  toString a.toNat ++ " " ++ sign ++ " " ++ toString b.toNat

/-- The sum, the difference and the product of bytes are exact and have to fit a byte. -/
def addBytes (a b : UInt8) : Except Cause Value :=
  fitByte ("Addition overflow: " ++ shownBytes a "+" b) (a.toNat + b.toNat)

def subtractBytes (a b : UInt8) : Except Cause Value :=
  fitByte ("Subtraction overflow: " ++ shownBytes a "-" b) (a.toNat - b.toNat : Int)

def multiplyBytes (a b : UInt8) : Except Cause Value :=
  fitByte ("Multiplication overflow: " ++ shownBytes a "*" b) (a.toNat * b.toNat)

def divideBytes (a b : UInt8) : Except Cause Value :=
  if b = 0 then .error (.arithmetic ("Division by zero: " ++ shownBytes a "/" b))
  else .ok (.byte (a / b))

def byteRemainder (a b : UInt8) : Except Cause Value :=
  if b = 0 then
    .error (.arithmetic ("Modulo division by zero or overflow: " ++ shownBytes a "%" b))
  else .ok (.byte (a % b))

/-- A byte raised to an integer, which has to fit a byte. -/
def bytePower (a : UInt8) (b : Int64) : Except Cause Value :=
  let shown := toString a.toNat ++ " ** " ++ toString b.toInt
  let message := "Exponential overflow: " ++ shown
  if b.toInt < 0 then .error (.arithmetic ("Integer raised to a negative power: " ++ shown))
  else if 2 ^ 32 ≤ b.toInt then .error (.arithmetic message)
  else if a.toNat < 2 then .ok (.byte (if b = 0 then 1 else a))
  else if 8 ≤ b.toInt then .error (.arithmetic message)
  else fitByte message (a.toNat ^ b.toInt.toNat)

/-- The bits of a byte moved up; those that leave it are lost. By a negative amount they move down. -/
def shiftByte (a : UInt8) (amount : Int) : UInt8 :=
  if 8 ≤ amount.natAbs then 0
  else if 0 ≤ amount then UInt8.ofNat (a.toNat * 2 ^ amount.toNat % 256)
  else UInt8.ofNat (a.toNat / 2 ^ amount.natAbs)

/-! ## Floats -/

/-- The remainder of a division of floats, exact, with the sign of the dividend. -/
def floatRemainder (x y : Float) : Float :=
  match Binary.ofFloat? x, Binary.ofFloat? y with
  | some a, some b =>
    if b.mantissa = 0 then 0.0 / 0.0
    else
      let low := min a.exponent b.exponent
      let m := a.mantissa * 2 ^ (a.exponent - low).toNat
      let n := b.mantissa * 2 ^ (b.exponent - low).toNat
      let r := Float.scaleB (Float.ofNat (m % n)) low
      if a.negative then -r else r
  | some _, none => if y.isNaN then y else x
  | none, _ => 0.0 / 0.0

/-- The length of a hypotenuse from the longer side and the shorter one. The error of the square root is
worked out from what it leaves, and taken off. -/
def hypotenuseOfSides (long short : Float) : Float :=
  let h := (long * long + short * short).sqrt
  let rest :=
    if h ≤ 2.0 * short then
      let d := h - short
      long * (2.0 * d - long) + (d - 2.0 * (long - short)) * d
    else
      let d := h - long
      2.0 * d * (long - 2.0 * short) + ((4.0 * d - short) * short + d * d)
  h - rest / (2.0 * h)

/-- The length of a hypotenuse. Sides whose squares would be too large or too small are scaled, and a side
that is much shorter than the other one is just added to it. -/
def hypotenuse (x y : Float) : Float :=
  if x.isInf || y.isInf then 1.0 / 0.0
  else if x.isNaN || y.isNaN then x + y
  else
    let long := if x.abs < y.abs then y.abs else x.abs
    let short := if x.abs < y.abs then x.abs else y.abs
    let scale := Float.scaleB 1.0 (-600)
    let slight := Float.scaleB 1.0 (-54)
    if short ≤ long * slight then long + short
    else if Float.scaleB 1.0 511 < long then hypotenuseOfSides (long * scale) (short * scale) / scale
    else if short < Float.scaleB 1.0 (-459) then
      hypotenuseOfSides (long / scale) (short / scale) * scale
    else hypotenuseOfSides long short

/-- The logarithm of one more than a number, also where one more is one. -/
def logOfSuccessor (x : Float) : Float :=
  let u := 1.0 + x
  if u == 1.0 then x
  else if u.isInf || u ≤ 0.0 || u.isNaN then u.log
  else u.log + (x - (u - 1.0)) / u

/-- The inverse of the hyperbolic sine. -/
def asinh (x : Float) : Float :=
  let a := x.abs
  let i := 1.0 / a
  let r := logOfSuccessor (a + a / (hypotenuse 1.0 i + i))
  if x.isNaN then x else if x < 0.0 || 1.0 / x < 0.0 then -r else r

/-- The inverse of the hyperbolic cosine. -/
def acosh (x : Float) : Float :=
  if x < 1.0 then 0.0 / 0.0 else (x + (x - 1.0).sqrt * (x + 1.0).sqrt).log

/-- The inverse of the hyperbolic tangent. -/
def atanh (x : Float) : Float := 0.5 * logOfSuccessor (2.0 * x / (1.0 - x))

/-- The float with its fraction cut off. -/
def integerPart (x : Float) : Float := if x < 0.0 then x.ceil else x.floor

end LiveForm.Script.Arithmetic

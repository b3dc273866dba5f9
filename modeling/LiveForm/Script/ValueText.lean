import LiveForm.Decimal.Layout
import LiveForm.Script.Value
import LiveForm.Text.Quoted
import LiveForm.Text.Utf8

/-!
# Values as text

A value becomes text in two manners. The script's own conversion, `Value.display`, is used wherever a
script joins or converts values; `Value.shown` is the manner of messages and of templates that are known
before the script runs. They agree but for characters inside arrays and maps, which only messages put in
quotes, and for what a function has captured.

Inside arrays and maps texts are in quotes, and floats have a layout of their own.
-/

namespace LiveForm.Script

/-- The greatest float that is displayed with a plain point. -/
def greatestPlain : Float := 9999999827968.0

/-- The smallest positive float that is displayed with a plain point. -/
def smallestPlain : Float := 9.99999982451670e-14

/-- A displayed float: plain within bounds, else with an exponent; zero has no sign. -/
def displayFloat (x : Float) : String :=
  let layout : Decimal.Layout :=
    if x.abs > greatestPlain || x.abs < smallestPlain then
      { plainFrom := 1, plainTo := 0, plus := false, signedZero := false }
    else { plainFrom := -400, plainTo := 400, plus := false, signedZero := false }
  Decimal.render layout x

/-- A float inside an array or a map. -/
def inspectFloat (x : Float) : String :=
  Decimal.render { plainFrom := -5, plainTo := 15, plus := false, signedZero := true } x

/-- A character in quotes. -/
def inspectChar (c : Char) : String :=
  let inner := if c = '\x27' then "\\'" else if c = '"' then "\"" else Text.showChar c
  "'" ++ inner ++ "'"

/-- Two hexadecimal digits. -/
def inspectByte (b : UInt8) : String :=
  let digits := Text.hex b.toNat
  if digits.length < 2 then "0" ++ digits else digits

/-- Bytes in groups of eight. -/
def inspectBytes (count : Nat) : List UInt8 → String
  | [] => ""
  | b :: rest =>
    (if count != 0 && count % 8 == 0 then " " else "") ++ inspectByte b ++
      inspectBytes (count + 1) rest

/-- A range as it is written; one up to the greatest integer has no end. -/
def rangeText (first last : Int64) (closed : Bool) : String :=
  toString first.toInt ++ (if closed then "..=" else "..") ++
    (if last.toInt = 2 ^ 63 - 1 then "" else toString last.toInt)

/-- How values look inside other ones. -/
structure TextManner where
  /-- Whether characters stand in quotes. -/
  quotesChars : Bool
  /-- Whether a function is written with its name in quotes and with what it has captured. -/
  showsCaptured : Bool

/-- The manner of a script's own conversions. -/
def TextManner.script : TextManner := ⟨false, false⟩

/-- The manner of messages. -/
def TextManner.message : TextManner := ⟨true, true⟩

namespace Value

mutual

/-- A value as it looks inside another one. -/
def inner (m : TextManner) : Value → String
  | .unit => "()"
  | .bool b => if b then "true" else "false"
  | .int n => toString n.toInt
  | .float x => inspectFloat x
  | .char c => if m.quotesChars then inspectChar c else c.toString
  | .text s => Text.quoted s
  | .blob bytes => "[" ++ inspectBytes 0 bytes ++ "]"
  | .array items => "[" ++ innerItems m items ++ "]"
  | .map members => "#\x7b" ++ innerMembers m members ++ "\x7d"
  | .range first last closed => rangeText first last closed
  | .byte b => toString b.toNat
  | .moment _ => "<timestamp>"
  | .function name captured =>
    if m.showsCaptured then "Fn(" ++ Text.quoted name ++ innerCaptured m captured ++ ")"
    else "Fn(" ++ name ++ ")"
  | .shared _ => ""
  | .steps _ _ _ => Kind.steps.longName
  | .floatSteps _ _ _ => Kind.floatSteps.longName
  | .chars _ => Kind.chars.longName
  | .bits _ => Kind.bits.longName

def innerItems (m : TextManner) : List Value → String
  | [] => ""
  | [v] => inner m v
  | v :: rest => inner m v ++ ", " ++ innerItems m rest

def innerMembers (m : TextManner) : List (String × Value) → String
  | [] => ""
  | [(k, v)] => Text.quoted k ++ ": " ++ inner m v
  | (k, v) :: rest => Text.quoted k ++ ": " ++ inner m v ++ ", " ++ innerMembers m rest

def innerCaptured (m : TextManner) : List Value → String
  | [] => ""
  | v :: rest => ", " ++ inner m v ++ innerCaptured m rest

end

/-- A value as text in a manner. -/
def textIn (m : TextManner) : Value → String
  | .unit => ""
  | .float x => displayFloat x
  | .char c => c.toString
  | .text s => s
  | .function name _ => "Fn(" ++ name ++ ")"
  | v => v.inner m

/-- A value as a script converts it to text. -/
def display (v : Value) : String := v.textIn .script

/-- A value as a script sees it when it debugs. -/
def inspect (v : Value) : String := v.inner .script

/-- A value as messages show it. -/
def shown (v : Value) : String := v.textIn .message

/-- The text that a value adds to a text it is joined to. Bytes are read as text. -/
def appended : Value → String
  | .blob bytes => Text.ofBytes bytes
  | v => v.display

end Value

end LiveForm.Script

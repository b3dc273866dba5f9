import LiveForm.Decimal.Layout
import LiveForm.Text.Quoted
import LiveForm.Json.Printer

/-!
# What can be wrong with a JSON document

Reading stops at the first fault: a place where the text is no JSON (`Flaw`), its end where more was
expected, or a value that is JSON but not what the schema asks for (`Misfit`). `Cause.message` has the
wording; the place is a line and the number of bytes read on it.
-/

namespace LiveForm

/-- What stood where something else was expected. -/
inductive Found where
  | null
  | flag (b : Bool)
  | number (n : Number)
  | text (s : String)
  | list
  | object

def Found.describe : Found → String
  | .null => "null"
  | .flag b => "boolean \x60" ++ (if b then "true" else "false") ++ "\x60"
  | .number (.int n _) => "integer \x60" ++ toString n ++ "\x60"
  | .number (.real x _) => "floating point \x60" ++ Decimal.render Json.floatLayout x ++ "\x60"
  | .text s => "string " ++ Text.quoted s
  | .list => "sequence"
  | .object => "map"

/-- A value that does not fit its schema. -/
inductive Misfit where
  | wrongKind (found : Found) (expected : String)
  | negativeCount (n : Int)
  | missing (member : String)
  | duplicate (member : String)
  | unknownWord (word : String) (choices : List String)
  /-- A record given as a list of too few members. -/
  | tooShort (length : Nat) (title : String) (members : Nat)

namespace Misfit

/-- Words in backticks, as alternatives. -/
def alternatives : List String → String
  | [] => "there are no variants"
  | [a] => "expected \x60" ++ a ++ "\x60"
  | [a, b] => "expected \x60" ++ a ++ "\x60 or \x60" ++ b ++ "\x60"
  | choices =>
    "expected one of " ++ ", ".intercalate (choices.map fun c => "\x60" ++ c ++ "\x60")

def message : Misfit → String
  | .wrongKind found expected => "invalid type: " ++ found.describe ++ ", expected " ++ expected
  | .negativeCount n => "invalid value: integer \x60" ++ toString n ++ "\x60, expected u64"
  | .missing m => "missing field \x60" ++ m ++ "\x60"
  | .duplicate m => "duplicate field \x60" ++ m ++ "\x60"
  | .unknownWord w choices => "unknown variant \x60" ++ w ++ "\x60, " ++ alternatives choices
  | .tooShort n title members =>
    "invalid length " ++ toString n ++ ", expected struct " ++ title ++ " with " ++
      toString members ++ (if members = 1 then " element" else " elements")

end Misfit

namespace Json

/-- Where the text ended too early. -/
inductive Unfinished where
  | list
  | object
  | string
  | value

/-- A fault of the text. -/
inductive Flaw where
  | expectedColon
  | expectedCommaOrBracket
  | expectedCommaOrBrace
  | expectedWord
  | expectedValue
  | invalidEscape
  | invalidNumber
  | numberOutOfRange
  | controlCharacter
  | keyNotText
  | loneSurrogate
  | endOfEscape
  | trailingComma
  | trailingCharacters
  | tooDeep

/-- Why reading stopped. -/
inductive Cause where
  | unfinished (what : Unfinished)
  | malformed (what : Flaw)
  | misfit (what : Misfit)

/-- The three classes of causes. -/
inductive Category where
  | unfinished
  | malformed
  | misfit
  deriving DecidableEq

def Cause.category : Cause → Category
  | .unfinished _ => .unfinished
  | .malformed _ => .malformed
  | .misfit _ => .misfit

def Unfinished.message : Unfinished → String
  | .list => "EOF while parsing a list"
  | .object => "EOF while parsing an object"
  | .string => "EOF while parsing a string"
  | .value => "EOF while parsing a value"

def Flaw.message : Flaw → String
  | .expectedColon => "expected \x60:\x60"
  | .expectedCommaOrBracket => "expected \x60,\x60 or \x60]\x60"
  | .expectedCommaOrBrace => "expected \x60,\x60 or \x60\x7d\x60"
  | .expectedWord => "expected ident"
  | .expectedValue => "expected value"
  | .invalidEscape => "invalid escape"
  | .invalidNumber => "invalid number"
  | .numberOutOfRange => "number out of range"
  | .controlCharacter =>
    "control character (\\u0000-\\u001F) found while parsing a string"
  | .keyNotText => "key must be a string"
  | .loneSurrogate => "lone leading surrogate in hex escape"
  | .endOfEscape => "unexpected end of hex escape"
  | .trailingComma => "trailing comma"
  | .trailingCharacters => "trailing characters"
  | .tooDeep => "recursion limit exceeded"

def Cause.message : Cause → String
  | .unfinished what => what.message
  | .malformed what => what.message
  | .misfit what => what.message

/-- A place in a text: a line from one, and the bytes of it already read. -/
structure Place where
  line : Nat
  column : Nat
  deriving DecidableEq, Repr

/-- Why reading stopped, and where. -/
structure Error where
  cause : Cause
  place : Place

def Error.message (e : Error) : String :=
  e.cause.message ++ " at line " ++ toString e.place.line ++ " column " ++
    toString e.place.column

end Json

end LiveForm

import LiveForm.Json
import LiveForm.Decimal.Layout

/-!
# JSON text

The compact text of a value (`Json.compact`) and the indented one (`Json.indented`). Members are
written in the order they have. Floats are written with the fewest digits that read back, always with
a point or an exponent, so that a float never reads back as an integer.
-/

namespace LiveForm

/-- Floats from `1e-5` to below `1e16` are written with a plain point, all others as `1.5e-7` or
`1e+16`; zero keeps its sign. -/
def Json.floatLayout : Decimal.Layout :=
  { plainFrom := -5, plainTo := 15, plus := true, signedZero := true }

/-- The text of a number. -/
def Number.text : Number → String
  | .int n _ => toString n
  | .real x _ => Decimal.render Json.floatLayout x

namespace Json

def hexDigit (n : Nat) : Char :=
  if n < 10 then Char.ofNat ('0'.toNat + n) else Char.ofNat ('a'.toNat + (n - 10))

/-- A character inside a string literal. Quotes, backslashes and control characters are escaped, the
latter by their short form where there is one. -/
def escapeChar (c : Char) : String :=
  if c = '"' then "\\\""
  else if c = '\\' then "\\\\"
  else if c = '\n' then "\\n"
  else if c = '\r' then "\\r"
  else if c = '\t' then "\\t"
  else if c = '\x08' then "\\b"
  else if c = '\x0c' then "\\f"
  else if c.toNat < 32 then
    "\\u00" ++ String.ofList [hexDigit (c.toNat / 16), hexDigit (c.toNat % 16)]
  else c.toString

/-- A string as a literal in quotes. -/
def quote (s : String) : String :=
  "\"" ++ s.foldl (fun text c => text ++ escapeChar c) "" ++ "\""

mutual

/-- The text of a value without any blanks. -/
def compact : Json → String
  | .null => "null"
  | .bool b => if b then "true" else "false"
  | .num n => n.text
  | .str s => quote s
  | .arr items => "[" ++ compactItems items ++ "]"
  | .obj members => "\x7b" ++ compactMembers members ++ "\x7d"

def compactItems : List Json → String
  | [] => ""
  | [v] => compact v
  | v :: rest => compact v ++ "," ++ compactItems rest

def compactMembers : List (String × Json) → String
  | [] => ""
  | [(k, v)] => quote k ++ ":" ++ compact v
  | (k, v) :: rest => quote k ++ ":" ++ compact v ++ "," ++ compactMembers rest

end

/-- The start of a line at a depth of nesting. -/
def margin (depth : Nat) : String := String.ofList (List.replicate (2 * depth) ' ')

mutual

/-- The text of a value with one item or member a line, two blanks deeper at each level. -/
def indentedAt (depth : Nat) : Json → String
  | .arr [] => "[]"
  | .arr items => "[\n" ++ indentedItems (depth + 1) items ++ "\n" ++ margin depth ++ "]"
  | .obj [] => "\x7b\x7d"
  | .obj members =>
    "\x7b\n" ++ indentedMembers (depth + 1) members ++ "\n" ++ margin depth ++ "\x7d"
  | v => compact v

def indentedItems (depth : Nat) : List Json → String
  | [] => ""
  | [v] => margin depth ++ indentedAt depth v
  | v :: rest => margin depth ++ indentedAt depth v ++ ",\n" ++ indentedItems depth rest

def indentedMembers (depth : Nat) : List (String × Json) → String
  | [] => ""
  | [(k, v)] => margin depth ++ quote k ++ ": " ++ indentedAt depth v
  | (k, v) :: rest =>
    margin depth ++ quote k ++ ": " ++ indentedAt depth v ++ ",\n" ++ indentedMembers depth rest

end

def indented (v : Json) : String := indentedAt 0 v

/-- A value as a reader sees it: nothing for `null`, a string as it is, else the compact text. -/
def display : Json → String
  | .null => ""
  | .str s => s
  | v => v.compact

end Json

end LiveForm

import LiveForm.Text.Printable

/-!
# Text quoted in messages

Messages that show a piece of text put it in double quotes and escape what would not be seen as
itself: the quote and the backslash, line ends and tabs, and every character without a printed form.
-/

namespace LiveForm.Text

/-- The hexadecimal digits of `n`. -/
def hex (n : Nat) : String := String.ofList (Nat.toDigits 16 n)

/-- A character inside quoted text. -/
def showChar (c : Char) : String :=
  if c = '"' then "\\\""
  else if c = '\\' then "\\\\"
  else if c = '\n' then "\\n"
  else if c = '\r' then "\\r"
  else if c = '\t' then "\\t"
  else if c = '\x00' then "\\0"
  else if isPrintable c then c.toString
  else "\\u\x7b" ++ hex c.toNat ++ "\x7d"

/-- The text between double quotes. -/
def quoted (s : String) : String :=
  "\"" ++ s.foldl (fun text c => text ++ showChar c) "" ++ "\""

end LiveForm.Text

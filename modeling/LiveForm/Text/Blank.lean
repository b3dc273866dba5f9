/-!
# Blanks

The characters that count as white space when text is trimmed: the ASCII blanks with the vertical tab
and the form feed, the next-line control, and the separators of other scripts.
-/

namespace LiveForm.Text

/-- Whether a character is white space. -/
def isBlank (c : Char) : Bool :=
  let n := c.toNat
  9 ≤ n && n ≤ 13 || n == 0x20 || n == 0x85 || n == 0xa0 || n == 0x1680 ||
    0x2000 ≤ n && n ≤ 0x200a || n == 0x2028 || n == 0x2029 || n == 0x202f || n == 0x205f ||
    n == 0x3000

/-- The characters without the blanks at the start. -/
def trimLeft (cs : List Char) : List Char := cs.dropWhile isBlank

/-- The characters without the blanks at the end. -/
def trimRight (cs : List Char) : List Char := (cs.reverse.dropWhile isBlank).reverse

/-- The text without the blanks at both ends. -/
def trim (s : String) : String := String.ofList (trimRight (trimLeft s.toList))

/-- The text without the blanks at its end. -/
def trimEnd (s : String) : String := String.ofList (trimRight s.toList)

/-- Whether the text has nothing but blanks. -/
def isBlankText (s : String) : Bool := s.toList.all isBlank

end LiveForm.Text

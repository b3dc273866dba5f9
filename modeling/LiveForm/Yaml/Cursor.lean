/-!
# Reading a YAML text

Where the reader of a text stands (`Cursor`), and the classes of characters that the notation
distinguishes. Besides the two common ones there are three further line breaks; of all breaks only the
line separator and the paragraph separator are kept as they are, the others are read as line feeds.
-/

namespace LiveForm.Yaml

/-! ## Classes of characters -/

def isBlank (c : Char) : Bool := c == ' ' || c == '\t'

def isBreak (c : Char) : Bool :=
  c == '\n' || c == '\r' || c == '\u0085' || c == '\u2028' || c == '\u2029'

def isSpacing (c : Char) : Bool := isBlank c || isBreak c

/-- The characters of names of anchors, handles and directives. -/
def isNameChar (c : Char) : Bool :=
  ('a' ≤ c && c ≤ 'z') || ('A' ≤ c && c ≤ 'Z') || ('0' ≤ c && c ≤ '9') || c == '_' || c == '-'

/-- The characters that stand for collections in flow style. -/
def isFlowIndicator (c : Char) : Bool :=
  c == ',' || c == '[' || c == ']' || c == '\x7b' || c == '\x7d'

/-- The characters a document may be written with. -/
def isAllowed (c : Char) : Bool :=
  let n := c.toNat
  n == 0x9 || n == 0xA || n == 0xD || (0x20 ≤ n && n ≤ 0x7E) || n == 0x85 ||
    (0xA0 ≤ n && n ≤ 0xFFFD) || 0x10000 ≤ n

/-- Whether a text starts with spacing or is at its end. -/
def startsSpacing : List Char → Bool
  | [] => true
  | c :: _ => isSpacing c

/-- Whether a line ends here. -/
def atLineEnd : List Char → Bool
  | [] => true
  | c :: _ => isBreak c

/-! ## Cursors -/

/-- Where a reader stands: what is left, and how much has been read, in characters of the text, in lines,
and in characters of the line. -/
structure Cursor where
  rest : List Char
  index : Nat := 0
  line : Nat := 0
  column : Nat := 0

namespace Cursor

/-- The next character. -/
def peek? (c : Cursor) : Option Char := c.rest.head?

/-- The cursor after so many characters of one line. -/
def skip (c : Cursor) (n : Nat) : Cursor :=
  { c with rest := c.rest.drop n, index := c.index + n, column := c.column + n }

/-- The characters up to the first one outside of a class that has no breaks, and the cursor there. -/
def takeWhile (c : Cursor) (p : Char → Bool) : List Char × Cursor :=
  let taken := c.rest.takeWhile p
  (taken, c.skip taken.length)

def skipWhile (c : Cursor) (p : Char → Bool) : Cursor := (c.takeWhile p).2

/-- The cursor at the start of the line after a break of so many characters. -/
def nextLine (c : Cursor) (n : Nat) : Cursor :=
  { rest := c.rest.drop n, index := c.index + n, line := c.line + 1 }

/-- The break that comes next as it is read, and the cursor after it; nothing if there is none. -/
def takeBreak (c : Cursor) : String × Cursor :=
  match c.rest with
  | '\r' :: '\n' :: _ => ("\n", c.nextLine 2)
  | ch :: _ =>
    if ch == '\u2028' || ch == '\u2029' then (ch.toString, c.nextLine 1)
    else if isBreak ch then ("\n", c.nextLine 1)
    else ("", c)
  | [] => ("", c)

/-- Whether a mark of a document, three of one character, stands at the start of a line. -/
def atMark (c : Cursor) (mark : Char) : Bool :=
  c.column == 0 &&
    match c.rest with
    | x :: y :: z :: rest => x == mark && y == mark && z == mark && startsSpacing rest
    | _ => false

/-- Whether a document starts or ends here. -/
def atDocumentMark (c : Cursor) : Bool := c.atMark '-' || c.atMark '.'

/-- The cursor at the end of the line if nothing but blanks and a comment is left of it. -/
def finishLine? (c : Cursor) : Option Cursor :=
  let c := c.skipWhile isBlank
  let c := if c.peek? == some '#' then c.skipWhile (!isBreak ·) else c
  if atLineEnd c.rest then some c.takeBreak.2 else none

end Cursor

end LiveForm.Yaml

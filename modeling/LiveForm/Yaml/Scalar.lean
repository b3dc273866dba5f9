import LiveForm.Yaml.Cursor

/-!
# The texts of scalars

A scalar is written plainly, in quotes, or as a block of lines. In the first two forms the spacing inside
is folded: a row of blanks stays as it is, a single line break is read as a space, and of several the
first one is dropped (`Gap.fold`). A block keeps its lines, or is folded line by line.

Every reader gives the text and the cursor after it, or nothing for a malformed scalar.
-/

namespace LiveForm.Yaml

/-! ## Spacing inside of scalars -/

/-- The spacing between two words of a scalar. -/
structure Gap where
  /-- The blanks before the first break. -/
  blanks : String := ""
  /-- Whether there is a break, be it one that is escaped. -/
  broken : Bool := false
  /-- The first break, if it is not escaped. -/
  first : String := ""
  /-- The breaks after the first one. -/
  further : String := ""

namespace Gap

/-- What the spacing is read as. -/
def fold (g : Gap) : String :=
  if !g.broken then g.blanks
  else if g.first != "\n" then g.first ++ g.further
  else if g.further.isEmpty then " "
  else g.further

/-- One more break. -/
def addBreak (g : Gap) (b : String) : Gap :=
  if g.broken then { g with further := g.further ++ b } else { broken := true, first := b }

/-- The spacing at a cursor. After a break there must be no tab before a column. -/
def read (margin : Nat) : (fuel : Nat) → Gap → Cursor → Option (Gap × Cursor)
  | 0, g, c => some (g, c)
  | fuel + 1, g, c =>
    match c.peek? with
    | none => some (g, c)
    | some ch =>
      if isBlank ch then
        if !g.broken then read margin fuel { g with blanks := g.blanks.push ch } (c.skip 1)
        else if ch == '\t' && c.column < margin then none
        else read margin fuel g (c.skip 1)
      else if isBreak ch then
        let (b, c) := c.takeBreak
        read margin fuel (g.addBreak b) c
      else some (g, c)

end Gap

/-! ## Plain scalars -/

namespace Plain

/-- Whether a scalar in flow style must not go on after a colon with this. -/
def refusesColon : List Char → Bool
  | c :: _ => isFlowIndicator c || c == '?'
  | [] => false

/-- A word of a plain scalar. A colon ends it if spacing follows, and in flow style the indicators do. -/
def word? (inFlow : Bool) : List Char → Option (List Char)
  | [] => some []
  | c :: rest =>
    if isSpacing c then some []
    else if inFlow && c == ':' && refusesColon rest then none
    else if c == ':' && startsSpacing rest then some []
    else if inFlow && isFlowIndicator c then some []
    else (word? inFlow rest).map (c :: ·)

/-- A plain scalar from a word on, after the text and the gap before it. The result tells also whether
the scalar was left at the start of a line. In block style it goes on only on lines that reach the
margin. -/
def read (inFlow : Bool) (margin : Nat) :
    (fuel : Nat) → (text : String) → Gap → Cursor → Option (String × Bool × Cursor)
  | 0, text, g, c => some (text, g.broken, c)
  | fuel + 1, text, g, c => do
    if c.atDocumentMark || c.peek? == some '#' then return (text, g.broken, c)
    let word ← word? inFlow c.rest
    if word.isEmpty then return (text, g.broken, c)
    let text := text ++ g.fold ++ String.ofList word
    let (g, c) ← Gap.read margin c.rest.length {} (c.skip word.length)
    if !inFlow && c.column < margin then return (text, g.broken, c)
    read inFlow margin fuel text g c

end Plain

/-! ## Quoted scalars -/

namespace Quotation

def hexDigit? (c : Char) : Option Nat :=
  if '0' ≤ c && c ≤ '9' then some (c.toNat - '0'.toNat)
  else if 'a' ≤ c && c ≤ 'f' then some (c.toNat - 'a'.toNat + 10)
  else if 'A' ≤ c && c ≤ 'F' then some (c.toNat - 'A'.toNat + 10)
  else none

/-- The number of a row of hexadecimal digits of this length at the start of a text. -/
def hexNumber? (length : Nat) (cs : List Char) : Option Nat := do
  let digits ← (cs.take length).mapM hexDigit?
  if digits.length = length then some (digits.foldl (16 * · + ·) 0) else none

/-- What a backslash and a character stand for. -/
def escape? : Char → Option Char
  | '0' => some '\x00'
  | 'a' => some '\x07'
  | 'b' => some '\x08'
  | 't' => some '\t'
  | '\t' => some '\t'
  | 'n' => some '\n'
  | 'v' => some '\x0b'
  | 'f' => some '\x0c'
  | 'r' => some '\r'
  | 'e' => some '\x1b'
  | ' ' => some ' '
  | '"' => some '"'
  | '/' => some '/'
  | '\\' => some '\\'
  | 'N' => some '\u0085'
  | '_' => some '\u00a0'
  | 'L' => some '\u2028'
  | 'P' => some '\u2029'
  | _ => none

/-- The digits after a backslash and a letter that names a character by its number. -/
def escapeDigits? : Char → Option Nat
  | 'x' => some 2
  | 'u' => some 4
  | 'U' => some 8
  | _ => none

/-- The character of a number, unless it is a surrogate or too great. -/
def charOf? (n : Nat) : Option Char := if n.isValidChar then some (Char.ofNat n) else none

/-- The character that an escape stands for, and how long it is. -/
def escaped? : List Char → Option (Char × Nat)
  | [] => none
  | c :: rest =>
    match escapeDigits? c with
    | some n => do return (← charOf? (← hexNumber? n rest), n + 2)
    | none => (escape? c).map (·, 2)

/-- The text up to spacing or the closing quote, and whether an escaped break ended it. -/
def word? (quote : Char) : (fuel : Nat) → (text : String) → Cursor → Option (String × Bool × Cursor)
  | 0, text, c => some (text, false, c)
  | fuel + 1, text, c =>
    match c.rest with
    | [] => some (text, false, c)
    | ch :: rest =>
      if isSpacing ch then some (text, false, c)
      else if ch == quote then
        if quote == '\x27' && rest.head? == some quote then
          word? quote fuel (text.push quote) (c.skip 2)
        else some (text, false, c)
      else if quote == '"' && ch == '\\' then
        if rest.head?.any isBreak then some (text, true, (c.skip 1).takeBreak.2)
        else
          match escaped? rest with
          | some (e, n) => word? quote fuel (text.push e) (c.skip n)
          | none => none
      else word? quote fuel (text.push ch) (c.skip 1)

/-- A quoted scalar after its opening quote. -/
def read (quote : Char) : (fuel : Nat) → (text : String) → Cursor → Option (String × Cursor)
  | 0, _, _ => none
  | fuel + 1, text, c => do
    if c.atDocumentMark || c.rest.isEmpty then none
    let (text, escapedBreak, c) ← word? quote c.rest.length text c
    if c.peek? == some quote then return (text, c.skip 1)
    let (g, c) ← Gap.read 0 c.rest.length { broken := escapedBreak } c
    read quote fuel (text ++ g.fold) c

end Quotation

/-! ## Block scalars -/

namespace Block

/-- What becomes of the breaks at the end of a block. -/
inductive Chomp where
  | strip
  | clip
  | keep
  deriving DecidableEq

def chomp? : Option Char → Option Chomp
  | some '-' => some .strip
  | some '+' => some .keep
  | _ => none

/-- A digit that tells the indentation. Zero is none. -/
def increment? (c : Cursor) : Option (Option Nat × Cursor) :=
  match c.peek? with
  | some '0' => none
  | some ch => if '1' ≤ ch && ch ≤ '9' then some (some (ch.toNat - '0'.toNat), c.skip 1) else some (none, c)
  | none => some (none, c)

/-- What stands after the indicator of a block: how to chomp it and its indentation, in either order. -/
def header? (c : Cursor) : Option (Chomp × Option Nat × Cursor) := do
  match chomp? c.peek? with
  | some chomp =>
    let (increment, c) ← increment? (c.skip 1)
    return (chomp, increment, c)
  | none =>
    let (increment, c) ← increment? c
    match increment, chomp? c.peek? with
    | some _, some chomp => return (chomp, increment, c.skip 1)
    | _, _ => return (.clip, increment, c)

/-- Whether the indentation of a line is still to be skipped at this column. -/
def isOutside (indent : Option Nat) (column : Nat) : Bool := indent.all (column < ·)

/-- The spaces of the indentation skipped. -/
def skipIndent (indent : Option Nat) : (fuel : Nat) → Cursor → Cursor
  | 0, c => c
  | fuel + 1, c =>
    if isOutside indent c.column && c.peek? == some ' ' then skipIndent indent fuel (c.skip 1) else c

/-- The empty lines before a line of content: their breaks, the greatest column reached, and the cursor
at the content. A tab is no indentation. -/
def emptyLines (indent : Option Nat) :
    (fuel : Nat) → (breaks : String) → (widest : Nat) → Cursor → Option (String × Nat × Cursor)
  | 0, breaks, widest, c => some (breaks, widest, c)
  | fuel + 1, breaks, widest, c =>
    let c := skipIndent indent c.rest.length c
    let widest := max widest c.column
    match c.peek? with
    | none => some (breaks, widest, c)
    | some ch =>
      if ch == '\t' && isOutside indent c.column then none
      else if isBreak ch then
        let (b, c) := c.takeBreak
        emptyLines indent fuel (breaks ++ b) widest c
      else some (breaks, widest, c)

/-- A block as far as it is read: its text, the break of the last line, the breaks of empty lines after
it, and whether that line started with a blank. -/
structure Progress where
  text : String := ""
  last : String := ""
  empty : String := ""
  afterBlank : Bool := false

/-- The text up to a line that starts with a blank or not. A folded block joins two lines by a space if
neither starts with a blank and no empty line stands between them. -/
def Progress.join (p : Progress) (folded startsBlank : Bool) : String :=
  if folded && p.last == "\n" && !p.afterBlank && !startsBlank then
    p.text ++ (if p.empty.isEmpty then " " else p.empty)
  else p.text ++ p.last ++ p.empty

/-- The lines of a block of known indentation. -/
def lines (folded : Bool) (indent : Nat) :
    (fuel : Nat) → Progress → Cursor → Option (Progress × Cursor)
  | 0, p, c => some (p, c)
  | fuel + 1, p, c => do
    if c.column != indent || c.rest.isEmpty then return (p, c)
    let startsBlank := c.peek?.any isBlank
    let (line, c) := c.takeWhile (!isBreak ·)
    let text := p.join folded startsBlank ++ String.ofList line
    let (last, c) := c.takeBreak
    let (empty, _, c) ← emptyLines (some indent) (c.rest.length + 1) "" 0 c
    lines folded indent fuel { text, last, empty, afterBlank := startsBlank } c

/-- The text of a block that is read to its end. -/
def Progress.finish (p : Progress) : Chomp → String
  | .strip => p.text
  | .clip => p.text ++ p.last
  | .keep => p.text ++ p.last ++ p.empty

/-- A block after its indicator, in a collection whose margin is given. Its indentation is told, or it is
that of the first line that is not empty. -/
def read (folded : Bool) (margin : Nat) (c : Cursor) : Option (String × Cursor) := do
  let (chomp, increment, c) ← header? c
  let c ← c.finishLine?
  let told := increment.map (margin - 1 + ·)
  let (empty, widest, c) ← emptyLines told (c.rest.length + 1) "" 0 c
  let indent := told.getD (max (max widest margin) 1)
  let (p, c) ← lines folded indent (c.rest.length + 1) { empty } c
  return (p.finish chomp, c)

end Block

end LiveForm.Yaml

import LiveForm.Decimal.Reading
import LiveForm.Script.Token
import LiveForm.Text.Blank

/-!
# From characters to tokens

`tokens` cuts a script into tokens from left to right, each as long as it can be. Blanks and comments
are skipped, also a comment that is never closed. A template text is cut at `$` before an opening brace:
its piece becomes a token, the block after it is cut as a script, and at the closing brace that belongs
to the opening one the text goes on.

The only limit that counts here is the one on the length of texts; a text over it is a fault.
-/

namespace LiveForm.Script

/-- Where the lexer stands: what is left, and the characters already seen of the current line. -/
structure Cursor where
  rest : List Char
  line : Nat
  seen : Nat

namespace Cursor

/-- The position of the next character. -/
def position (c : Cursor) : Position := ⟨c.line, c.seen + 1⟩

/-- The cursor after one more character. -/
def advance (c : Cursor) : Cursor :=
  match c.rest with
  | [] => { c with seen := c.seen + 1 }
  | '\n' :: rest => ⟨rest, c.line + 1, 0⟩
  | _ :: rest => ⟨rest, c.line, c.seen + 1⟩

/-- The cursor after `n` characters of one line. -/
def skip (c : Cursor) (n : Nat) : Cursor := ⟨c.rest.drop n, c.line, c.seen + n⟩

end Cursor

namespace Lexer

/-! ## Comments -/

/-- The cursor at the end of the line. -/
def skipLine (c : Cursor) : Cursor := c.skip (c.rest.takeWhile (· != '\n')).length

/-- The cursor after a comment with so many openings; comments nest. -/
def skipComment : (fuel : Nat) → (openings : Nat) → Cursor → Cursor
  | 0, _, c => c
  | _, 0, c => c
  | fuel + 1, openings + 1, c =>
    match c.rest with
    | [] => c
    | '/' :: '*' :: _ => skipComment fuel (openings + 2) (c.skip 2)
    | '*' :: '/' :: _ => skipComment fuel openings (c.skip 2)
    | _ => skipComment fuel (openings + 1) c.advance

/-! ## Numbers -/

/-- The digits of a row in which underscores may stand, and how many characters it has. -/
def digitRow (isDigit : Char → Bool) (cs : List Char) : List Char × Nat :=
  let row := cs.takeWhile fun c => isDigit c || c == '_'
  (row.filter (· != '_'), row.length)

/-- Whether a point after a number belongs to it: if a digit follows, or something that could be no
property. -/
def takesPoint : List Char → Bool
  | c :: _ => isDigit c || !(c == '_' || c == '.' || isLetter c)
  | [] => false

/-- Whether an `e` after a number begins its exponent. -/
def takesExponent : List Char → Bool
  | c :: _ => isDigit c || c == '+' || c == '-'
  | [] => false

/-- What is written of a decimal number after its first digits, without underscores, and how many characters
it has. A point and an exponent are taken once each, in either order. -/
def decimalRest : (fuel : Nat) → (point exponent : Bool) → List Char → List Char × Nat
  | 0, _, _, _ => ([], 0)
  | fuel + 1, point, exponent, cs =>
    let (digits, n) := digitRow isDigit cs
    match cs.drop n with
    | '.' :: rest =>
      if point || !takesPoint rest then (digits, n)
      else
        let (more, m) := decimalRest fuel true exponent rest
        let zero := if rest.head?.any isDigit then [] else ['0']
        (digits ++ '.' :: zero ++ more, n + 1 + m)
    | 'e' :: rest =>
      if exponent || !takesExponent rest then (digits, n)
      else
        let sign := (rest.takeWhile fun c => !isDigit c).take 1
        let (more, m) := decimalRest fuel point true (rest.drop sign.length)
        (digits ++ 'e' :: sign ++ more, n + 1 + sign.length + m)
    | _ => (digits, n)

/-- The base a letter after a leading zero stands for. -/
def baseOf? (c : Char) : Option Nat :=
  if c == 'x' || c == 'X' then some 16
  else if c == 'o' || c == 'O' then some 8
  else if c == 'b' || c == 'B' then some 2
  else none

/-- The token of a decimal number: an integer where 64 bits hold it, else a float. -/
def decimalToken (negative : Bool) (written : List Char) : Token :=
  let n := Decimal.Reading.valueOfDigits written
  if written.all isDigit && n < 2 ^ 63 + (if negative then 1 else 0) then
    .int (Int64.ofInt (if negative then -n else n))
  else
    let written := if negative then '-' :: written else written
    match Decimal.Reading.read? written with
    | some x => .float x
    | none => .fault (.number (String.ofList written))

/-- The token of a number in another base, which a letter tells; it wraps into the signed range. A sign in
front does not fit it. -/
def basedToken (negative : Bool) (base : Nat) (letter : Char) (digits : List Char) : Token :=
  let written := if negative then letter :: digits else digits
  match numberOfDigits? base written with
  | some n =>
    if digits.isEmpty || negative || 2 ^ 64 ≤ n then .fault (.number (String.ofList written))
    else .int (Int64.ofNat n)
  | none => .fault (.number (String.ofList written))

/-- The number at the start of these characters, and how many it takes. A minus sign that stands before it
may belong to it. -/
def number (negative : Bool) (cs : List Char) : Token × Nat :=
  let based := match cs with
    | '0' :: rest =>
      let blanks := (rest.takeWhile (· == '_')).length
      match rest.drop blanks with
      | c :: digits => (baseOf? c).map fun base => (base, c, blanks, digits)
      | [] => none
    | _ => none
  match based with
  | some (base, letter, blanks, rest) =>
    let (digits, n) := digitRow (isDigitOf base) rest
    (basedToken negative base letter digits, blanks + n + 2)
  | none =>
    let (written, n) := decimalRest 3 false false cs
    (decimalToken negative written, n)

/-! ## Names and signs -/

/-- The token of a word. -/
def word (s : String) : Token :=
  if s == "_" then .symbol s
  else if s == "eval" then .fault (.disabled "keyword" s)
  else if Token.keywords.contains s then .symbol s
  else if Token.reservedWords.contains s then .reserved s
  else if isName s then .name s
  else .fault (.badName s)

/-- What is said about a sign of other languages. -/
def adviceFor? : String → Option String
  | "===" => some "'===' is not a valid operator. This is not JavaScript! Should it be '=='?"
  | "!==" => some "'!==' is not a valid operator. This is not JavaScript! Should it be '!='?"
  | "->" => some "'->' is not a valid symbol. This is not C or C++!"
  | "<-" => some "'<-' is not a valid symbol. This is not Go! Should it be '<='?"
  | ":=" =>
    some "':=' is not a valid assignment operator. This is not Go or Pascal! Should it be simply '='?"
  | ":;" => some "':;' is not a valid symbol. Should it be '::'?"
  | "::<" => some "'::<>' is not a valid symbol. This is not Rust! Should it be '::'?"
  | "# \x7b" => some "'#' is not a valid symbol. Should it be '#\x7b'?"
  | "(*" | "*)" =>
    some "'(* .. *)' is not a valid comment format. This is not Pascal! Should it be '/* .. */'?"
  | _ => none

/-- Whether the text is the start of these characters. -/
def startsWith (s : String) (cs : List Char) : Bool := s.toList.isPrefixOf cs

/-- The longest sign at the start of these characters. -/
def sign? (cs : List Char) : Option Token :=
  let plain := Token.signs.find? (startsWith · cs)
  let reserved := Token.reservedSigns.find? (startsWith · cs)
  let length : Option String → Nat := fun s => (s.getD "").length
  if length plain = 0 ∧ length reserved = 0 then none
  else if length plain < length reserved then
    let s := reserved.getD ""
    match adviceFor? s with
    | some advice => some (.fault (.foreign advice))
    | none => some (.reserved s)
  else plain.map .symbol

/-- The characters a sign takes. -/
def signLength (cs : List Char) : Nat :=
  let length : Option String → Nat := fun s => (s.getD "").length
  max (length (Token.signs.find? (startsWith · cs)))
    (length (Token.reservedSigns.find? (startsWith · cs)))

/-- Whether these characters start with the operator for absence, `!in`. -/
def isAbsence (cs : List Char) : Bool :=
  startsWith "!in" cs &&
    match cs.drop 3 with
    | c :: _ => !isNameChar c
    | [] => true

/-! ## Texts -/

/-- How a kind of text is written: the quote that ends it, and what is special inside. -/
structure Quoting where
  quote : Char
  /-- Escapes are not looked at, and line ends are part of the text. -/
  plain : Bool
  /-- A backslash at the end of a line joins it with the next one. -/
  continues : Bool
  /-- Blocks may stand inside. -/
  template : Bool

def Quoting.text : Quoting := ⟨'"', false, true, false⟩

def Quoting.char : Quoting := ⟨'\x27', false, false, false⟩

def Quoting.backtick : Quoting := ⟨'\x60', true, false, true⟩

/-- How a text ended: at its quote, or before a block. -/
inductive Ending where
  | quote
  | block

/-- What an escape letter stands for. -/
def escapeLetter? (c : Char) : Option Char :=
  if c == 'r' then some '\r'
  else if c == 'n' then some '\n'
  else if c == 't' then some '\t'
  else if c == '\\' then some '\\'
  else none

/-- How many hexadecimal digits an escape letter wants. -/
def escapeDigits? (c : Char) : Option Nat :=
  if c == 'x' then some 2 else if c == 'u' then some 4 else if c == 'U' then some 8 else none

/-- The character of an escape by number, or the fault and where it is seen. -/
def numberedEscape (c : Cursor) (letter : Char) (count : Nat) :
    Except (TokenFault × Position) (Char × Cursor) :=
  let after := c.rest.takeWhile (isDigitOf 16)
  let digits := after.take count
  let written := String.ofList ('\\' :: letter :: digits)
  let here : Cursor := c.skip digits.length
  if digits.length < count then
    match here.rest with
    | [] => .error (.escape written, ⟨here.line, here.seen⟩)
    | d :: _ =>
      .error (.escape (written ++ d.toString), ⟨here.line, here.seen + 1⟩)
  else
    let n := (numberOfDigits? 16 digits).getD 0
    if n.isValidChar then .ok (Char.ofNat n, here)
    else .error (.escape written, ⟨here.line, here.seen⟩)

/-- The rest of a text up to its quote or to a block inside. `size` counts the bytes read, and blanks
before column `margin` are left out after a joined line. -/
def textRest (q : Quoting) (limit : Nat) (start : Position) : (fuel : Nat) →
    (read : List Char) → (size margin : Nat) → Cursor →
    Except (TokenFault × Position) (String × Ending × Cursor)
  | 0, _, _, _, _ => .error (.openText, start)
  | fuel + 1, read, size, margin, c =>
    if limit != 0 && limit < size then .error (.textTooLong limit, start)
    else
      match c.rest with
      | [] => .error (.openText, start)
      | d :: rest =>
        if q.template && d == '$' && rest.head? == some '{' then
          .ok (String.ofList read.reverse, .block, c.advance)
        else if d == q.quote then
          if rest.head? == some q.quote then
            textRest q limit start fuel (d :: read) (size + d.utf8Size) 0 (c.skip 2)
          else .ok (String.ofList read.reverse, .quote, c.advance)
        else if d == '\r' && rest.head? == some '\n' then
          textRest q limit start fuel read size margin c.advance
        else if d == '\n' then
          if q.plain then textRest q limit start fuel (d :: read) (size + 1) 0 c.advance
          else .error (.openText, start)
        else if d == '\\' && !q.plain then
          match rest with
          | [] => .error (.openText, start)
          | e :: after =>
            if e == '\n' || e == '\r' && after.head? == some '\n' then
              if q.continues then
                let next := if e == '\n' then c.advance.advance else c.advance.advance.advance
                textRest q limit start fuel read size (start.column + 1) next
              else .error (.openText, start)
            else if e == q.quote then
              textRest q limit start fuel (e :: read) (size + 1) 0 (c.skip 2)
            else
              match escapeLetter? e, escapeDigits? e with
              | some x, _ =>
                textRest q limit start fuel (x :: read) (size + x.utf8Size) 0 (c.skip 2)
              | none, some count =>
                match numberedEscape (c.skip 2) e count with
                | .ok (x, next) =>
                  textRest q limit start fuel (x :: read) (size + x.utf8Size) 0 next
                | .error fault => .error fault
              | none, none =>
                .error (.escape (String.ofList ['\\', e]), ⟨c.line, c.seen + 2⟩)
        else if Text.isBlank d && c.seen + 1 < margin then
          textRest q limit start fuel read size margin c.advance
        else textRest q limit start fuel (d :: read) (size + d.utf8Size) 0 c.advance

/-- The token of a character literal. -/
def charToken (s : String) : Token :=
  match s.toList with
  | [c] => .char c
  | _ => .fault (.character s)

/-- The cursor after a line end right behind the opening quote of a template. -/
def skipFirstLineEnd (c : Cursor) : Cursor :=
  match c.rest with
  | '\r' :: '\n' :: rest | '\r' :: rest | '\n' :: rest => ⟨rest, c.line + 1, 0⟩
  | _ => c

/-- A text that is kept as it is written, after its first quote. It ends at a quote with as many hashes behind
it as stand before the text. -/
def rawText (hashes : List Char) (limit : Nat) (start : Position) :
    (fuel : Nat) → (read : List Char) → (size : Nat) → Cursor →
    Except (TokenFault × Position) (String × Cursor)
  | 0, _, _, _ => .error (.openText, start)
  | fuel + 1, read, size, c =>
    if limit != 0 && limit < size then .error (.textTooLong limit, start)
    else
      match c.rest with
      | [] => .error (.openText, start)
      | d :: rest =>
        if d == '"' && hashes.isPrefixOf rest then
          .ok (String.ofList read.reverse, c.skip (hashes.length + 1))
        else rawText hashes limit start fuel (d :: read) (size + d.utf8Size) c.advance

/-! ## The whole script -/

/-- The signs after which a minus sign before a digit belongs to the number. -/
def signsBeforeNumbers : List String :=
  [";", ":", ",", "..", "..=", "\x7b", "(", "[", "+", "-", "*", "/", "%", "**", "<<", ">>", "=", "==", "!=", "<",
    ">", "!", "<=", ">=", "|", "||", "&", "&&", "^", "return", "throw", "if", "while", "until", "in"] ++
    Token.compoundAssignments.map (·.1)

/-- Whether a minus sign after a token belongs to the digits after it. -/
def signsNumbers : Token → Bool
  | .symbol s => signsBeforeNumbers.contains s
  | _ => false

/-- The rest of a template text up to its end or to a block, as a token. An unclosed text that is empty after a
block has no place. -/
def templateText (limit : Nat) (start : Position) (isFirst : Bool) (c : Cursor) :
    Except Located (Token × Ending × Cursor) :=
  match textRest .backtick limit start (c.rest.length + 1) [] 0 0 c with
  | .ok (s, .quote, next) => .ok (.text s, .quote, next)
  | .ok (s, .block, next) => .ok (.piece s, .block, next)
  | .error (fault, p) =>
    .error ⟨.fault fault, if !isFirst && c.rest.isEmpty then .unknown else p⟩

/-- The tokens from the cursor on. `open` has, for each block inside a template text that the cursor is
in, the braces that are open in it; `signed` tells that a minus sign may belong to a number. -/
def run (limit : Nat) : (fuel : Nat) → (braces : List Nat) → (signed : Bool) → Cursor → List Located
  | 0, _, _, c => [⟨.finish, c.position⟩]
  | fuel + 1, braces, signed, c =>
    let here := c.position
    let after (token : Token) (braces : List Nat) (next : Cursor) : List Located :=
      ⟨token, here⟩ :: run limit fuel braces (signsNumbers token) next
    match c.rest with
    | [] => [⟨.finish, here⟩]
    | d :: rest =>
      if Text.isBlank d then run limit fuel braces signed c.advance
      else if d == '/' && rest.head? == some '/' then run limit fuel braces signed (skipLine c)
      else if d == '/' && rest.head? == some '*' then
        run limit fuel braces signed (skipComment c.rest.length 1 (c.skip 2))
      else if isDigit d then
        let (token, n) := number false c.rest
        after token braces (c.skip n)
      else if d == '-' && signed && rest.head?.any isDigit then
        let (token, n) := number true rest
        after token braces (c.skip (n + 1))
      else if isNameStart d then
        let cs := c.rest.takeWhile isNameChar
        after (word (String.ofList cs)) braces (c.skip cs.length)
      else if d == '"' then
        match textRest .text limit here (rest.length + 1) [] 0 0 (c.skip 1) with
        | .ok (s, _, next) => after (.text s) braces next
        | .error (fault, p) => [⟨.fault fault, p⟩]
      else if d == '\x27' then
        if rest.head? == some '\x27' then [⟨.fault (.character ""), here⟩]
        else
          match textRest .char limit here (rest.length + 1) [] 0 0 (c.skip 1) with
          | .ok (s, _, next) => after (charToken s) braces next
          | .error (fault, p) => [⟨.fault fault, p⟩]
      else if d == '\x60' then
        match templateText limit here true (skipFirstLineEnd (c.skip 1)) with
        | .ok (token, .quote, next) => after token braces next
        | .ok (token, .block, next) => after token (0 :: braces) next
        | .error fault => [fault]
      else if d == '#' && (rest.head? == some '"' || rest.head? == some '#') then
        let hashes := c.rest.takeWhile (· == '#')
        match rest.drop (hashes.length - 1) with
        | [] => [⟨.fault .openText, here⟩]
        | q :: more =>
          if q != '"' then [⟨.fault (.unexpected q.toString), here⟩]
          else
            match rawText hashes limit here (more.length + 1) [] 0 (c.skip (hashes.length + 1)) with
            | .ok (s, next) => after (.text s) braces next
            | .error (fault, p) => [⟨.fault fault, p⟩]
      else if isAbsence c.rest then after (.symbol "!in") braces (c.skip 3)
      else
        match sign? c.rest with
        | none => [⟨.fault (.unexpected d.toString), here⟩]
        | some token =>
          let next := c.skip (signLength c.rest)
          match token, braces with
          | .symbol "\x7d", 1 :: outer =>
            ⟨token, here⟩ ::
              (match templateText limit next.position false next with
              | .ok (text, .quote, rest) =>
                ⟨text, next.position⟩ :: run limit fuel outer false rest
              | .ok (text, .block, rest) =>
                ⟨text, next.position⟩ :: run limit fuel (0 :: outer) false rest
              | .error fault => [fault])
          | .symbol "\x7d", n :: outer => after token ((n - 1) :: outer) next
          | .symbol "\x7b", n :: outer | .symbol "#\x7b", n :: outer => after token ((n + 1) :: outer) next
          | _, _ => after token braces next

end Lexer

/-- The tokens of a script, the last of which marks its end. -/
def tokens (limit : Nat) (source : String) : List Located :=
  let cs := source.toList
  Lexer.run limit (cs.length + 1) [] true ⟨cs, 1, 0⟩

end LiveForm.Script

import LiveForm.Yaml.Scalar
import LiveForm.Yaml.Token

/-!
# From characters to tokens

`tokens?` cuts a document into tokens and writes out what its indentation says. Two things make that
more than a walk from left to right.

* **margins** — in block style a collection ends where a line starts left of it. The margin is one more
  than the column of the innermost block collection, and zero outside of all of them.
* **candidates** — that a node is a key is known only at the colon after it. Where a node may be one, its
  place among the tokens is kept for every level of flow style, and the colon puts the token of a key
  there. A candidate is given up at the end of its line and after 1024 characters. If it stands at the
  very margin there is nothing else it could be, and giving it up is a fault.
-/

namespace LiveForm.Yaml

/-- A place among the tokens where a key may turn out to start. -/
structure Candidate where
  place : Nat
  index : Nat
  line : Nat
  column : Nat
  /-- Whether it has to be a key. -/
  required : Bool

structure Lexer where
  cursor : Cursor
  tokens : Array Token := #[]
  margin : Nat := 0
  /-- The margins of the block collections around the innermost one. -/
  margins : List Nat := []
  /-- The candidate of the block style around everything. -/
  outermost : Option Candidate := none
  /-- The candidates of the flow collections that are open, the innermost first. -/
  candidates : List (Option Candidate) := []
  /-- Whether a key without a mark of its own may start here. -/
  keyAllowed : Bool := true

namespace Lexer

def inFlow (x : Lexer) : Bool := !x.candidates.isEmpty

def push (x : Lexer) (t : Token) : Lexer := { x with tokens := x.tokens.push t }

/-- A token of so many characters read. -/
def take (x : Lexer) (t : Token) (n : Nat) : Lexer := { x.push t with cursor := x.cursor.skip n }

def allowKey (x : Lexer) (keyAllowed : Bool) : Lexer := { x with keyAllowed }

/-! ## Candidates -/

/-- The candidate of the innermost collection. -/
def candidate? (x : Lexer) : Option Candidate := x.candidates.headD x.outermost

def setCandidate (x : Lexer) (k : Option Candidate) : Lexer :=
  match x.candidates with
  | [] => { x with outermost := k }
  | _ :: rest => { x with candidates := k :: rest }

/-- A candidate given up, which it must not be if it is required. -/
def giveUp? (k : Option Candidate) : Option (Option Candidate) :=
  if k.any (·.required) then none else some none

/-- The innermost candidate given up. -/
def dropCandidate? (x : Lexer) : Option Lexer := (giveUp? x.candidate?).map x.setCandidate

/-- The node at the cursor as a candidate, if a key may start here. -/
def offerCandidate? (x : Lexer) : Option Lexer :=
  if x.keyAllowed then do
    let c := x.cursor
    let required := !x.inFlow && x.margin == c.column + 1
    return (← x.dropCandidate?).setCandidate
      (some { place := x.tokens.size, index := c.index, line := c.line, column := c.column, required })
  else some x

/-- Whether a candidate is out of reach. -/
def isStale (c : Cursor) (k : Candidate) : Bool := k.line < c.line || k.index + 1024 < c.index

def refresh? (c : Cursor) (k : Option Candidate) : Option (Option Candidate) :=
  if k.any (isStale c) then giveUp? k else some k

/-- The candidates that are out of reach given up. -/
def dropStale? (x : Lexer) : Option Lexer := do
  return { x with
    outermost := ← refresh? x.cursor x.outermost
    candidates := ← x.candidates.mapM (refresh? x.cursor) }

/-! ## Margins -/

/-- A block collection opened at a column unless one is open there; its token goes to a place. -/
def openBlock (x : Lexer) (t : Token) (column place : Nat) : Lexer :=
  if x.inFlow || column < x.margin then x
  else
    { x with
      tokens := x.tokens.insertIdxIfInBounds place t
      margins := x.margin :: x.margins
      margin := column + 1 }

/-- The block collections right of a margin closed. -/
def closeBlocks (margin : Nat) : (fuel : Nat) → Lexer → Lexer
  | 0, x => x
  | fuel + 1, x =>
    if x.inFlow || x.margin ≤ margin then x
    else
      closeBlocks margin fuel
        { x.push .blockEnd with margin := x.margins.headD 0, margins := x.margins.tail }

def closeTo (x : Lexer) (margin : Nat) : Lexer := closeBlocks margin (x.margins.length + 1) x

/-! ## Tokens of structure -/

def directiveNumber? (c : Cursor) : Option (Nat × Cursor) :=
  let (digits, c) := c.takeWhile fun ch => '0' ≤ ch && ch ≤ '9'
  if digits.isEmpty || 9 < digits.length then none
  else some (digits.foldl (fun n d => 10 * n + (d.toNat - '0'.toNat)) 0, c)

/-- A directive after its sign and name. -/
def versionDirective? (c : Cursor) : Option (Token × Cursor) := do
  let (major, c) ← directiveNumber? (c.skipWhile isBlank)
  if c.peek? != some '.' then none
  let (minor, c) ← directiveNumber? (c.skip 1)
  return (.version major minor, c)

/-- The characters that names of tags are written with; `verbatim` says whether those that belong to flow
style are among them. -/
def isTagChar (verbatim : Bool) (c : Char) : Bool :=
  isNameChar c || ";/?:@&=+$.%!~*\x27()".toList.contains c ||
    (verbatim && (c == ',' || c == '[' || c == ']'))

/-- How many bytes a character takes whose first byte is given. -/
def byteWidth? (b : Nat) : Option Nat :=
  if b < 0x80 then some 1
  else if b < 0xC0 then none
  else if b < 0xE0 then some 2
  else if b < 0xF0 then some 3
  else if b < 0xF8 then some 4
  else none

/-- The bytes at the start of a text that are written with percent signs. -/
def percentBytes? : (count : Nat) → List Char → Option (List Nat)
  | 0, _ => some []
  | count + 1, '%' :: rest => do
    let b ← Quotation.hexNumber? 2 rest
    return b :: (← percentBytes? count (rest.drop 2))
  | _, _ => none

/-- The character of its bytes. -/
def charOfBytes? (bytes : List Nat) : Option Char :=
  match bytes with
  | [] => none
  | b :: more =>
    let start := if b < 0x80 then b else if b < 0xE0 then b % 32 else if b < 0xF0 then b % 16 else b % 8
    if more.all fun m => m / 64 == 2 then
      Quotation.charOf? (more.foldl (fun n m => n * 64 + m % 64) start)
    else none

/-- The name of a tag as far as it goes, with percent signs resolved. -/
def tagText? (verbatim : Bool) : (fuel : Nat) → (text : String) → Cursor → Option (String × Cursor)
  | 0, text, c => some (text, c)
  | fuel + 1, text, c =>
    match c.rest with
    | '%' :: rest => do
      let width ← byteWidth? (← Quotation.hexNumber? 2 rest)
      let ch ← charOfBytes? (← percentBytes? width c.rest)
      tagText? verbatim fuel (text.push ch) (c.skip (3 * width))
    | ch :: _ =>
      if isTagChar verbatim ch then tagText? verbatim fuel (text.push ch) (c.skip 1)
      else some (text, c)
    | [] => some (text, c)

/-- The name of a tag, which must not be empty. -/
def tagName? (verbatim : Bool) (c : Cursor) : Option (String × Cursor) := do
  let (text, c) ← tagText? verbatim c.rest.length "" c
  if text.isEmpty then none else return (text, c)

/-- A handle: an exclamation mark, and a name with another one if it is there. -/
def tagHandle? (c : Cursor) : Option (String × Cursor) :=
  if c.peek? != some '!' then none
  else
    let (name, c) := (c.skip 1).takeWhile isNameChar
    let handle := "!" ++ String.ofList name
    if c.peek? == some '!' then some (handle ++ "!", c.skip 1) else some (handle, c)

def tagDirective? (c : Cursor) : Option (Token × Cursor) := do
  let (handle, c) ← tagHandle? (c.skipWhile isBlank)
  if handle != "!" && !(handle.length ≥ 2 && handle.endsWith "!") then none
  if !c.peek?.any isBlank then none
  let (stem, c) ← tagName? true (c.skipWhile isBlank)
  if startsSpacing c.rest then return (.tagDirective handle stem, c) else none

/-- A directive with its line. -/
def directive? (c : Cursor) : Option (Token × Cursor) := do
  let (name, c) := (c.skip 1).takeWhile isNameChar
  if !startsSpacing c.rest then none
  let (token, c) ← match String.ofList name with
    | "YAML" => versionDirective? c
    | "TAG" => tagDirective? c
    | _ => none
  return (token, ← c.finishLine?)

/-- A tag: in angle brackets, after a handle, or on its own. -/
def tag? (inFlow : Bool) (c : Cursor) : Option (Token × Cursor) := do
  let (token, c) ← match c.rest with
    | '!' :: '<' :: _ => do
      let (name, c) ← tagName? true (c.skip 2)
      if c.peek? != some '>' then none
      pure (Token.tag "" name, c.skip 1)
    | _ => do
      let (handle, after) ← tagHandle? c
      if handle.length ≥ 2 && handle.endsWith "!" then
        let (suffix, c) ← tagName? false after
        pure (Token.tag handle suffix, c)
      else
        let (suffix, c) ← tagText? false after.rest.length (handle.drop 1).toString after
        pure (if suffix.isEmpty then Token.tag "" "!" else Token.tag "!" suffix, c)
  if startsSpacing c.rest || (inFlow && c.peek? == some ',') then return (token, c) else none

/-- The name of an anchor after its sign. -/
def anchorName? (c : Cursor) : Option (String × Cursor) :=
  let (name, c) := (c.skip 1).takeWhile isNameChar
  let ends := startsSpacing c.rest || c.peek?.any ("?:,]\x7d%@\x60".toList.contains ·)
  if name.isEmpty || !ends then none else some (String.ofList name, c)

/-! ## Steps -/

/-- A token that ends what stands before it at the start of a line. -/
def takeOuter? (x : Lexer) : Option Lexer := do return (← (x.closeTo 0).dropCandidate?).allowKey false

def openFlow? (x : Lexer) (t : Token) : Option Lexer := do
  let x ← x.offerCandidate?
  return { x.take t 1 with candidates := none :: x.candidates, keyAllowed := true }

def closeFlow? (x : Lexer) (t : Token) : Option Lexer := do
  let x ← x.dropCandidate?
  return { x.take t 1 with candidates := x.candidates.tail, keyAllowed := false }

/-- The dash of an entry, which opens a list if there is none at its column. -/
def blockEntry? (x : Lexer) : Option Lexer := do
  if !x.inFlow && !x.keyAllowed then none
  let x := x.openBlock .blockList x.cursor.column x.tokens.size
  return ((← x.dropCandidate?).take .blockEntry 1).allowKey true

/-- The mark of a key of its own. -/
def key? (x : Lexer) : Option Lexer := do
  if !x.inFlow && !x.keyAllowed then none
  let x := x.openBlock .blockMap x.cursor.column x.tokens.size
  let x ← x.dropCandidate?
  return (x.take .key 1).allowKey !x.inFlow

/-- The colon before a value. It makes a key of the candidate, or belongs to a key with a mark. -/
def value? (x : Lexer) : Option Lexer :=
  match x.candidate? with
  | some k =>
    let x := { x with tokens := x.tokens.insertIdxIfInBounds k.place .key }
    let x := (x.openBlock .blockMap k.column k.place).setCandidate none
    some ((x.take .value 1).allowKey false)
  | none =>
    if !x.inFlow && !x.keyAllowed then none
    else
      let x := x.openBlock .blockMap x.cursor.column x.tokens.size
      some ((x.take .value 1).allowKey !x.inFlow)

/-- A token that belongs to a node, read by a reader of its own. -/
def node? (x : Lexer) (read : Cursor → Option (Token × Cursor)) : Option Lexer := do
  let x ← x.offerCandidate?
  let (t, cursor) ← read x.cursor
  return { x.push t with cursor, keyAllowed := false }

def quoted? (x : Lexer) (quote : Char) (style : Style) : Option Lexer :=
  x.node? fun c => do
    let (text, c) ← Quotation.read quote (c.rest.length + 1) "" (c.skip 1)
    return (.scalar style text, c)

def block? (x : Lexer) (folded : Bool) (style : Style) : Option Lexer := do
  let x ← x.dropCandidate?
  let (text, cursor) ← Block.read folded x.margin (x.cursor.skip 1)
  return { x.push (.scalar style text) with cursor, keyAllowed := true }

/-- A plain scalar. If it was left at the start of a line, a key may follow. -/
def plain? (x : Lexer) : Option Lexer := do
  let x ← x.offerCandidate?
  let c := x.cursor
  let (text, keyAllowed, cursor) ← Plain.read x.inFlow x.margin (c.rest.length + 1) "" {} c
  return { x.push (.scalar .plain text) with cursor, keyAllowed }

/-- Whether a plain scalar may start with a character that is followed by a text. -/
def startsPlain (inFlow : Bool) (c : Char) (rest : List Char) : Bool :=
  if c == '-' then !rest.head?.any isBlank
  else if c == '?' || c == ':' then !inFlow && !startsSpacing rest
  else !(isSpacing c || isFlowIndicator c || "#&*!|>\x27\"%@\x60".toList.contains c)

/-- The spacing and comments before a token skipped. In block style a new line may start a key, and tabs
do not count as spacing where a key may start. -/
def skipSpacing : (fuel : Nat) → Lexer → Lexer
  | 0, x => x
  | fuel + 1, x =>
    let c := if x.cursor.index == 0 && x.cursor.peek? == some '\ufeff' then x.cursor.skip 1 else x.cursor
    let c := c.skipWhile fun ch => ch == ' ' || (ch == '\t' && (x.inFlow || !x.keyAllowed))
    let c := if c.peek? == some '#' then c.skipWhile (!isBreak ·) else c
    if c.peek?.any isBreak then
      skipSpacing fuel
        { x with cursor := c.takeBreak.2, keyAllowed := x.keyAllowed || !x.inFlow }
    else { x with cursor := c }

/-- The token at the cursor read. -/
def token? (x : Lexer) : Option Lexer := do
  let c := x.cursor
  match c.rest with
  | [] => none
  | ch :: rest =>
    if c.column == 0 && ch == '%' then
      let x ← x.takeOuter?
      let (t, cursor) ← directive? c
      return { x.push t with cursor }
    else if c.atMark '-' then return (← x.takeOuter?).take .documentStart 3
    else if c.atMark '.' then return (← x.takeOuter?).take .documentEnd 3
    else
      match ch with
      | '[' => x.openFlow? .flowList
      | '\x7b' => x.openFlow? .flowMap
      | ']' => x.closeFlow? .flowListEnd
      | '\x7d' => x.closeFlow? .flowMapEnd
      | ',' => return ((← x.dropCandidate?).take .flowEntry 1).allowKey true
      | '*' => x.node? fun c => (anchorName? c).map fun (name, c) => (.alias name, c)
      | '&' => x.node? fun c => (anchorName? c).map fun (name, c) => (.anchor name, c)
      | '!' => x.node? (tag? x.inFlow)
      | '\x27' => x.quoted? ch .singleQuoted
      | '"' => x.quoted? ch .doubleQuoted
      | _ =>
        if ch == '-' && startsSpacing rest then x.blockEntry?
        else if ch == '?' && (x.inFlow || startsSpacing rest) then x.key?
        else if ch == ':' && (x.inFlow || startsSpacing rest) then x.value?
        else if ch == '|' && !x.inFlow then x.block? false .literal
        else if ch == '>' && !x.inFlow then x.block? true .folded
        else if startsPlain x.inFlow ch rest then x.plain?
        else none

/-- All tokens from here on. -/
def run? : (fuel : Nat) → Lexer → Option (List Token)
  | 0, _ => none
  | fuel + 1, x => do
    let x ← (skipSpacing (x.cursor.rest.length + 1) x).dropStale?
    if x.cursor.rest.isEmpty then
      let x ← (x.closeTo 0).dropCandidate?
      return (x.push .streamEnd).tokens.toList
    run? fuel (← (x.closeTo (x.cursor.column + 1)).token?)

end Lexer

/-- The tokens of a document, or nothing if it is malformed. A mark of the byte order in front does not
count. -/
def tokens? (text : String) : Option (List Token) :=
  let cs := match text.toList with
    | '\ufeff' :: rest => rest
    | cs => cs
  if cs.all isAllowed then Lexer.run? (cs.length + 2) { cursor := { rest := cs } } else none

end LiveForm.Yaml

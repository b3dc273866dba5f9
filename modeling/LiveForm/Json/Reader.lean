import LiveForm.Decimal.Reading
import LiveForm.Json.Error
import LiveForm.Schema

/-!
# Reading JSON text

A document is read from left to right against a `Schema`, and the first fault ends the reading. So of
two faults in a text the earlier one is reported, whether it is one of syntax or of shape. Two places
are told apart: *here*, after what has been read, and *ahead*, one byte on, after a character that was
looked at and refused.

A fault that concerns a record as a whole (a missing or repeated member, a list that is too short) is
placed after the record's closing bracket has been tried for; `closing` is that attempt. Members the
schema does not know are skipped by a laxer grammar (`skipValue`), which does not look into escapes
and sets no bound on nesting.

Every loop carries a bound on its steps, which is the length of the text at the outermost call: each
step reads at least one character.
-/

namespace LiveForm.Json

/-- What is left of a text, and the place where it starts. -/
structure Cursor where
  rest : List Char
  place : Place

namespace Cursor

def start (text : String) : Cursor := ⟨text.toList, ⟨1, 0⟩⟩

/-- The place after the next `n` bytes. -/
def placeAfter (n : Nat) (c : Cursor) : Place := go n c.rest c.place
where
  go : Nat → List Char → Place → Place
    | 0, _, p => p
    | _, [], p => p
    | n + 1, ch :: rest, p =>
      if ch = '\n' then go n rest ⟨p.line + 1, 0⟩
      else go (n + 1 - ch.utf8Size) rest ⟨p.line, p.column + min (n + 1) ch.utf8Size⟩

/-- The place one byte on. -/
def ahead (c : Cursor) : Place := c.placeAfter 1

/-- The cursor after the next character. -/
def advance (c : Cursor) : Cursor :=
  match c.rest with
  | [] => c
  | ch :: rest =>
    if ch = '\n' then ⟨rest, ⟨c.place.line + 1, 0⟩⟩
    else ⟨rest, ⟨c.place.line, c.place.column + ch.utf8Size⟩⟩

/-- The cursor after all blanks. -/
def skipBlanks (c : Cursor) : Cursor := go c.rest c.place
where
  go : List Char → Place → Cursor
    | [], p => ⟨[], p⟩
    | ch :: rest, p =>
      if ch = '\n' then go rest ⟨p.line + 1, 0⟩
      else if ch = ' ' ∨ ch = '\t' ∨ ch = '\r' then go rest ⟨p.line, p.column + 1⟩
      else ⟨ch :: rest, p⟩

end Cursor

/-- Reading steps from a cursor to the next one, or stops with an error. -/
abbrev Reader := StateT Cursor (Except Error)

namespace Reader

def peek? : Reader (Option Char) := return (← get).rest.head?

def skip : Reader Unit := modify Cursor.advance

/-- Skip blanks and look at what follows. -/
def peekToken? : Reader (Option Char) := do
  modify Cursor.skipBlanks
  peek?

def failHere {α : Type} (cause : Cause) : Reader α := do throw ⟨cause, (← get).place⟩

def failAhead {α : Type} (cause : Cause) : Reader α := do throw ⟨cause, (← get).ahead⟩

def isDigit (c : Char) : Bool := '0' ≤ c && c ≤ '9'

/-- The digits that come next. -/
def digits : Reader (List Char) := do
  let c ← get
  let ds := c.rest.takeWhile isDigit
  set { c with
    rest := c.rest.dropWhile isDigit
    place := ⟨c.place.line, c.place.column + ds.length⟩ }
  return ds

/-- The rest of `null`, `true` or `false`. -/
def word : List Char → Reader Unit
  | [] => return
  | expected :: rest => do
    match ← peek? with
    | none => failHere (.unfinished .value)
    | some c =>
      if c = expected then
        skip
        word rest
      else failAhead (.malformed .expectedWord)

/-! ## Numbers -/

def digitValue (c : Char) : Nat := c.toNat - '0'.toNat

def valueOfDigits (ds : List Char) : Nat := ds.foldl (fun n d => 10 * n + digitValue d) 0

/-- The greatest exponent that is looked at digit by digit. -/
def greatestExponent : Nat := 2 ^ 31 - 1

/-- The number nearest to `± mantissa · 10 ^ exponent`, or `none` beyond the finite floats. Every decimal is rounded
once, however long it is, so the shortest text of a float is read as this float. A reader that makes floats of the
digits and of the power of ten first rounds up to three times, and may come to a float beside the nearest one where
there are more than fifteen digits or the power is beyond `10 ^ 22`, as for `449.49106478873813`. -/
def nearest? (negative : Bool) (mantissa : Nat) (exponent : Int) : Option Number :=
  let magnitude := Decimal.nearest mantissa exponent
  Number.ofFloat? (if negative then -magnitude else magnitude)

/-- A float literal whose parts have been read. -/
def realOf (negative : Bool) (mantissa : Nat) (exponent : Int) : Reader Number :=
  match nearest? negative mantissa exponent with
  | some n => return n
  | none => failHere (.malformed .numberOutOfRange)

/-- A number without point and exponent: an integer where 64 bits hold it. Minus zero is a float. -/
def integerOf (negative : Bool) (n : Nat) : Reader Number :=
  if negative then
    if h : 0 < n ∧ n ≤ 2 ^ 63 then
      return .int (-n) ⟨by omega, by omega⟩
    else realOf true n 0
  else if h : n < 2 ^ 64 then
    return .int n ⟨by omega, by omega⟩
  else realOf false n 0

/-- The length of the shortest start of these digits that exceeds the greatest exponent. -/
def overflowAt? (ds : List Char) : Option Nat :=
  (List.range (ds.length + 1)).find? fun k => greatestExponent < valueOfDigits (ds.take k)

/-- The exponent of a literal, from its letter on. -/
def exponentPart (negative : Bool) (mantissa : Nat) (scale : Int) : Reader Number := do
  skip
  let c ← peek?
  if c = some '+' ∨ c = some '-' then skip
  match ← peek? with
  | none => failHere (.unfinished .value)
  | some d =>
    if !isDigit d then failAhead (.malformed .invalidNumber)
    else
      let start := (← get).place
      let ds ← digits
      match overflowAt? ds with
      | some k =>
        if mantissa ≠ 0 ∧ c ≠ some '-' then
          throw ⟨.malformed .numberOutOfRange, ⟨start.line, start.column + k⟩⟩
        else realOf negative 0 0
      | none =>
        let e : Int := valueOfDigits ds
        realOf negative mantissa (scale + if c = some '-' then -e else e)

/-- What may follow the integer digits of a literal: a fraction and an exponent. -/
def afterDigits (negative : Bool) (whole : List Char) : Reader Number := do
  match ← peek? with
  | some '.' =>
    skip
    let fraction ← digits
    if fraction.isEmpty then
      match ← peek? with
      | none => failAhead (.unfinished .value)
      | some _ => failAhead (.malformed .invalidNumber)
    else
      let mantissa := valueOfDigits (whole ++ fraction)
      let c ← peek?
      if c = some 'e' ∨ c = some 'E' then
        exponentPart negative mantissa (-fraction.length)
      else realOf negative mantissa (-fraction.length)
  | c =>
    if c = some 'e' ∨ c = some 'E' then exponentPart negative (valueOfDigits whole) 0
    else integerOf negative (valueOfDigits whole)

/-- A number after its sign. -/
def number (negative : Bool) : Reader Number := do
  match ← peek? with
  | none => failHere (.unfinished .value)
  | some c =>
    if c = '0' then
      skip
      match ← peek? with
      | some d => if isDigit d then failAhead (.malformed .invalidNumber) else afterDigits negative ['0']
      | none => afterDigits negative ['0']
    else if isDigit c then afterDigits negative (← digits)
    else failAhead (.malformed .invalidNumber)

/-! ## Strings -/

def hexValue? (c : Char) : Option Nat :=
  if isDigit c then some (digitValue c)
  else if 'a' ≤ c ∧ c ≤ 'f' then some (c.toNat - 'a'.toNat + 10)
  else if 'A' ≤ c ∧ c ≤ 'F' then some (c.toNat - 'A'.toNat + 10)
  else none

/-- The four hexadecimal digits of an escape. -/
def hexEscape : Reader Nat := do
  let c ← get
  if c.rest.foldl (· + ·.utf8Size) 0 < 4 then
    throw ⟨.unfinished .string, c.placeAfter 4⟩
  match (c.rest.take 4).mapM hexValue? with
  | some [a, b, d, e] =>
    set { c with rest := c.rest.drop 4, place := c.placeAfter 4 }
    return ((a * 16 + b) * 16 + d) * 16 + e
  | _ => throw ⟨.malformed .invalidEscape, c.placeAfter 4⟩

/-- A character that has to come next in a pair of escapes. -/
def pairTail (expected : Char) : Reader Unit := do
  match ← peek? with
  | none => failHere (.unfinished .string)
  | some c => if c = expected then skip else failAhead (.malformed .endOfEscape)

/-- The character of a `\u` escape, or of two that form a surrogate pair. -/
def unicodeEscape : Reader Char := do
  let n ← hexEscape
  if 0xDC00 ≤ n ∧ n ≤ 0xDFFF then failHere (.malformed .loneSurrogate)
  else if n < 0xD800 ∨ 0xDBFF < n then return Char.ofNat n
  else
    pairTail '\\'
    pairTail 'u'
    let m ← hexEscape
    if m < 0xDC00 ∨ 0xDFFF < m then failHere (.malformed .loneSurrogate)
    else return Char.ofNat ((n - 0xD800) * 1024 + (m - 0xDC00) + 0x10000)

/-- The character of an escape, after its backslash. -/
def escape : Reader Char := do
  match ← peek? with
  | none => failHere (.unfinished .string)
  | some c =>
    if c = '"' ∨ c = '\\' ∨ c = '/' then
      skip
      return c
    else if c = 'b' then
      skip
      return '\x08'
    else if c = 'f' then
      skip
      return '\x0c'
    else if c = 'n' then
      skip
      return '\n'
    else if c = 'r' then
      skip
      return '\r'
    else if c = 't' then
      skip
      return '\t'
    else if c = 'u' then
      skip
      unicodeEscape
    else failAhead (.malformed .invalidEscape)

/-- The rest of a string after its opening quote. -/
def string (written : List Char) : (fuel : Nat) → Reader String
  | 0 => failHere (.unfinished .string)
  | fuel + 1 => do
    match ← peek? with
    | none => failHere (.unfinished .string)
    | some c =>
      if c = '"' then
        skip
        return String.ofList written.reverse
      else if c = '\\' then
        skip
        let d ← escape
        string (d :: written) fuel
      else if c.toNat < 32 then failAhead (.malformed .controlCharacter)
      else
        skip
        string (c :: written) fuel

/-! ## Brackets -/

/-- Whether a list goes on with another item. -/
def nextItem (first : Bool) : Reader Bool := do
  match ← peekToken? with
  | none => failAhead (.unfinished .list)
  | some ']' => return false
  | some c =>
    if first then return true
    else if c = ',' then
      skip
      match ← peekToken? with
      | none => failAhead (.unfinished .value)
      | some ']' => failAhead (.malformed .trailingComma)
      | some _ => return true
    else failAhead (.malformed .expectedCommaOrBracket)

/-- Whether an object goes on with another key; its opening quote comes next then. -/
def nextKey (first : Bool) : Reader Bool := do
  match ← peekToken? with
  | none => failAhead (.unfinished .object)
  | some '}' => return false
  | some c =>
    if first then
      if c = '"' then return true else failAhead (.malformed .keyNotText)
    else if c = ',' then
      skip
      match ← peekToken? with
      | none => failAhead (.unfinished .value)
      | some '"' => return true
      | some '}' => failAhead (.malformed .trailingComma)
      | some _ => failAhead (.malformed .keyNotText)
    else failAhead (.malformed .expectedCommaOrBrace)

def colon : Reader Unit := do
  match ← peekToken? with
  | none => failAhead (.unfinished .object)
  | some ':' => skip
  | some _ => failAhead (.malformed .expectedColon)

/-- The two kinds of brackets. -/
inductive Bracket where
  | list
  | object

/-- The attempt to close a bracket: the cursor it ends at, and the error if it fails. -/
def closing (bracket : Bracket) (c : Cursor) : Cursor × Option Error :=
  let c := c.skipBlanks
  match bracket, c.rest with
  | .list, ']' :: _ => (c.advance, none)
  | .list, ',' :: _ =>
    let c := c.advance.skipBlanks
    match c.rest with
    | ']' :: _ => (c, some ⟨.malformed .trailingComma, c.ahead⟩)
    | _ => (c, some ⟨.malformed .trailingCharacters, c.ahead⟩)
  | .list, _ :: _ => (c, some ⟨.malformed .trailingCharacters, c.ahead⟩)
  | .list, [] => (c, some ⟨.unfinished .list, c.ahead⟩)
  | .object, '}' :: _ => (c.advance, none)
  | .object, ',' :: _ => (c, some ⟨.malformed .trailingComma, c.ahead⟩)
  | .object, _ :: _ => (c, some ⟨.malformed .trailingCharacters, c.ahead⟩)
  | .object, [] => (c, some ⟨.unfinished .object, c.ahead⟩)

def close (bracket : Bracket) : Reader Unit := do
  match closing bracket (← get) with
  | (c, none) => set c
  | (_, some e) => throw e

/-- Close the bracket of a record, or report what is wrong with the record after trying to. -/
def closeRecord {α : Type} (bracket : Bracket) : Except Misfit α → Reader α
  | .ok a => do
    close bracket
    return a
  | .error what => do
    throw ⟨.misfit what, (closing bracket (← get)).1.place⟩

/-- Enter a bracket. A document may nest 127 of them. -/
def enter {α : Type} (depth : Nat) (inside : Nat → Reader α) : Reader α :=
  match depth with
  | 0 => failAhead (.malformed .tooDeep)
  | depth + 1 => do
    skip
    inside depth

/-! ## Values -/

mutual

/-- A value of any kind. -/
def value (depth : Nat) : (fuel : Nat) → Reader Json
  | 0 => failHere (.unfinished .value)
  | fuel + 1 => do
    match ← peekToken? with
    | none => failAhead (.unfinished .value)
    | some 'n' => skip; word "ull".toList; return .null
    | some 't' => skip; word "rue".toList; return .bool true
    | some 'f' => skip; word "alse".toList; return .bool false
    | some '-' => skip; return .num (← number true)
    | some '"' => skip; return .str (← string [] fuel)
    | some '[' =>
      let vs ← enter depth fun depth => items depth true [] fuel
      close .list
      return .arr vs
    | some '{' =>
      let ms ← enter depth fun depth => members depth true [] fuel
      close .object
      return .obj ms
    | some c =>
      if isDigit c then return .num (← number false)
      else failAhead (.malformed .expectedValue)

def items (depth : Nat) (first : Bool) (read : List Json) : (fuel : Nat) → Reader (List Json)
  | 0 => failHere (.unfinished .list)
  | fuel + 1 => do
    if ← nextItem first then
      let v ← value depth fuel
      items depth false (v :: read) fuel
    else return read.reverse

def members (depth : Nat) (first : Bool) (read : List (String × Json)) :
    (fuel : Nat) → Reader (List (String × Json))
  | 0 => failHere (.unfinished .object)
  | fuel + 1 => do
    if ← nextKey first then
      skip
      let k ← string [] fuel
      colon
      let v ← value depth fuel
      members depth false (insertMember k v read) fuel
    else return read

end

/-! ## Skipping what the schema does not know -/

/-- The exponent of a skipped number, from its letter on. -/
def skipExponent : Reader Unit := do
  skip
  let c ← peek?
  if c = some '+' ∨ c = some '-' then skip
  match ← peek? with
  | some d => if isDigit d then discard digits else failAhead (.malformed .invalidNumber)
  | none => failHere (.malformed .invalidNumber)

/-- A skipped number after its sign; it may be out of every range. -/
def skipNumber : Reader Unit := do
  match ← peek? with
  | none => failHere (.malformed .invalidNumber)
  | some c =>
    if !isDigit c then failAhead (.malformed .invalidNumber)
    else
      if c = '0' then
        skip
        if ((← peek?).map isDigit).getD false then failAhead (.malformed .invalidNumber)
      else discard digits
      match ← peek? with
      | some '.' =>
        skip
        if (← digits).isEmpty then failAhead (.malformed .invalidNumber)
        let c ← peek?
        if c = some 'e' ∨ c = some 'E' then skipExponent
      | c => if c = some 'e' ∨ c = some 'E' then skipExponent

/-- A skipped string after its opening quote. -/
def skipString : (fuel : Nat) → Reader Unit
  | 0 => failHere (.unfinished .string)
  | fuel + 1 => do
    match ← peek? with
    | none => failHere (.unfinished .string)
    | some '"' => skip
    | some '\\' =>
      skip
      match ← peek? with
      | none => failHere (.unfinished .string)
      | some c =>
        if c = 'u' then
          skip
          discard hexEscape
        else if ['"', '\\', '/', 'b', 'f', 'n', 'r', 't'].contains c then skip
        else failAhead (.malformed .invalidEscape)
      skipString fuel
    | some c =>
      if c.toNat < 32 then failHere (.malformed .controlCharacter)
      else
        skip
        skipString fuel

mutual

def skipValue : (fuel : Nat) → Reader Unit
  | 0 => failHere (.unfinished .value)
  | fuel + 1 => do
    match ← peekToken? with
    | none => failAhead (.unfinished .value)
    | some 'n' => skip; word "ull".toList
    | some 't' => skip; word "rue".toList
    | some 'f' => skip; word "alse".toList
    | some '-' => skip; skipNumber
    | some '"' => skip; skipString fuel
    | some '[' => skip; skipItems true fuel
    | some '{' => skip; skipMembers true fuel
    | some c => if isDigit c then skipNumber else failAhead (.malformed .expectedValue)

def skipItems (first : Bool) : (fuel : Nat) → Reader Unit
  | 0 => failHere (.unfinished .list)
  | fuel + 1 => do
    match ← peekToken? with
    | none => failAhead (.unfinished .list)
    | some ']' => skip
    | some c =>
      if first then
        skipValue fuel
        skipItems false fuel
      else if c = ',' then
        skip
        skipValue fuel
        skipItems false fuel
      else failAhead (.malformed .expectedCommaOrBracket)

def skipMembers (first : Bool) : (fuel : Nat) → Reader Unit
  | 0 => failHere (.unfinished .object)
  | fuel + 1 => do
    match ← peekToken? with
    | none => failAhead (.unfinished .object)
    | some '}' => skip
    | some c =>
      if first then
        skipMember fuel
        skipMembers false fuel
      else if c = ',' then
        skip
        skipMember fuel
        skipMembers false fuel
      else failAhead (.malformed .expectedCommaOrBrace)

def skipMember : (fuel : Nat) → Reader Unit
  | 0 => failHere (.unfinished .object)
  | fuel + 1 => do
    match ← peekToken? with
    | none => failAhead (.unfinished .object)
    | some '"' =>
      skip
      skipString fuel
      colon
      skipValue fuel
    | some _ => failAhead (.malformed .keyNotText)

end

/-! ## Values of a schema -/

/-- Report the value that comes next as one of the wrong kind. -/
def refuse {α : Type} (expected : String) (fuel : Nat) : Reader α := do
  match ← peek? with
  | some 'n' => skip; word "ull".toList; wrong .null
  | some 't' => skip; word "rue".toList; wrong (.flag true)
  | some 'f' => skip; word "alse".toList; wrong (.flag false)
  | some '-' => skip; wrong (.number (← number true))
  | some '"' => skip; wrong (.text (← string [] fuel))
  | some '[' => wrong .list
  | some '{' => wrong .object
  | some c =>
    if isDigit c then wrong (.number (← number false))
    else failAhead (.malformed .expectedValue)
  | none => failAhead (.malformed .expectedValue)
where
  wrong {α : Type} (found : Found) : Reader α := failHere (.misfit (.wrongKind found expected))

/-- Look at a value that has to be there. -/
def peekValue : Reader Char := do
  match ← peekToken? with
  | none => failAhead (.unfinished .value)
  | some c => return c

/-- A string that is a value of its own. -/
def textValue (expected : String) (fuel : Nat) : Reader String := do
  if (← peekValue) = '"' then
    skip
    string [] fuel
  else refuse expected fuel

def flagValue (fuel : Nat) : Reader Bool := do
  match ← peekValue with
  | 't' => skip; word "rue".toList; return true
  | 'f' => skip; word "alse".toList; return false
  | _ => refuse "a boolean" fuel

/-- A number, or a report of what stands in its place. -/
def numberValue (expected : String) (fuel : Nat) : Reader Number := do
  let c ← peekValue
  if c = '-' then
    skip
    number true
  else if isDigit c then number false
  else refuse expected fuel

def countValue (fuel : Nat) : Reader Nat := do
  match ← numberValue "u64" fuel with
  | .int n _ =>
    if 0 ≤ n then return n.toNat else failHere (.misfit (.negativeCount n))
  | n => failHere (.misfit (.wrongKind (.number n) "u64"))

/-- One of a choice of words. -/
def wordText (choices : List String) (fuel : Nat) : Reader String := do
  let s ← textValue "variant identifier" fuel
  if choices.contains s then return s
  else failHere (.misfit (.unknownWord s choices))

/-- A word, alone or as the one key of an object that holds `null`. -/
def wordValue (choices : List String) (depth fuel : Nat) : Reader String := do
  match ← peekToken? with
  | none => failAhead (.unfinished .value)
  | some '"' => wordText choices fuel
  | some '{' =>
    let s ← enter depth fun _ => do
      let s ← wordText choices fuel
      colon
      if (← peekValue) = 'n' then
        skip
        word "ull".toList
      else refuse "unit" fuel
      return s
    match ← peekToken? with
    | some '}' =>
      skip
      return s
    | some _ => failHere (.malformed .expectedValue)
    | none => failHere (.unfinished .object)
  | some _ => failAhead (.malformed .expectedValue)

/-- The first member that has to be there and is not. -/
def missing? (shape : List (Member Schema)) (read : List (String × Datum)) : Option Misfit :=
  (shape.find? fun m => m.required && (read.lookup m.name).isNone).map fun m => .missing m.name

mutual

/-- A value of a schema. -/
def datum (depth : Nat) : (fuel : Nat) → Schema → Reader Datum
  | 0, _ => failHere (.unfinished .value)
  | fuel + 1, .any => return .value (← value depth fuel)
  | fuel + 1, .text => return .text (← textValue "a string" fuel)
  | fuel + 1, .flag => return .flag (← flagValue fuel)
  | fuel + 1, .real => return .real (← numberValue "f64" fuel).toFloat
  | fuel + 1, .count => return .count (← countValue fuel)
  | fuel + 1, .optional of => do
    if (← peekToken?) = some 'n' then
      skip
      word "ull".toList
      return .absent
    else datum depth fuel of
  | fuel + 1, .word choices => return .text (← wordValue choices depth fuel)
  | fuel + 1, .list of => do
    if (← peekValue) = '[' then
      let ds ← enter depth fun depth => listItems depth of true [] fuel
      close .list
      return .list ds
    else refuse "a sequence" fuel
  | fuel + 1, .texts => do
    if (← peekValue) = '{' then
      let ds ← enter depth fun depth => textMembers depth true [] fuel
      close .object
      return .record ds
    else refuse "a map" fuel
  | fuel + 1, .record title shape => do
    match ← peekValue with
    | '{' =>
      let read ← enter depth fun depth => recordMembers depth shape true [] fuel
      closeRecord .object (read.map .record)
    | '[' =>
      let read ← enter depth fun depth => recordItems depth title shape shape true [] fuel
      closeRecord .list (read.map .record)
    | _ => refuse ("struct " ++ title) fuel
termination_by structural fuel => fuel

def listItems (depth : Nat) (of : Schema) (first : Bool) (read : List Datum) :
    (fuel : Nat) → Reader (List Datum)
  | 0 => failHere (.unfinished .list)
  | fuel + 1 => do
    if ← nextItem first then
      let d ← datum depth fuel of
      listItems depth of false (d :: read) fuel
    else return read.reverse
termination_by structural fuel => fuel

def textMembers (depth : Nat) (first : Bool) (read : List (String × Datum)) :
    (fuel : Nat) → Reader (List (String × Datum))
  | 0 => failHere (.unfinished .object)
  | fuel + 1 => do
    if ← nextKey first then
      skip
      let k ← string [] fuel
      colon
      let d ← datum depth fuel .text
      textMembers depth false (read.filter (fun m => m.1 != k) ++ [(k, d)]) fuel
    else return read
termination_by structural fuel => fuel

/-- The members of a record in the order of the text. -/
def recordMembers (depth : Nat) (shape : List (Member Schema)) (first : Bool)
    (read : List (String × Datum)) :
    (fuel : Nat) → Reader (Except Misfit (List (String × Datum)))
  | 0 => failHere (.unfinished .object)
  | fuel + 1 => do
    if ← nextKey first then
      skip
      let k ← string [] fuel
      match shape.find? (·.answersTo k) with
      | none =>
        colon
        skipValue fuel
        recordMembers depth shape false read fuel
      | some m =>
        if (read.lookup m.name).isSome then return .error (.duplicate m.name)
        else
          colon
          let d ← datum depth fuel m.shape
          recordMembers depth shape false (read ++ [(m.name, d)]) fuel
    else
      match missing? shape read with
      | some what => return .error what
      | none => return .ok read
termination_by structural fuel => fuel

/-- The members of a record that is given as a list, in the order of the schema. -/
def recordItems (depth : Nat) (title : String) (shape : List (Member Schema)) :
    (left : List (Member Schema)) → (first : Bool) → (read : List (String × Datum)) →
    (fuel : Nat) → Reader (Except Misfit (List (String × Datum)))
  | _, _, _, 0 => failHere (.unfinished .list)
  | [], _, read, _ + 1 => return .ok read
  | m :: left, first, read, fuel + 1 => do
    if ← nextItem first then
      let d ← datum depth fuel m.shape
      recordItems depth title shape left false (read ++ [(m.name, d)]) fuel
    else if m.listed then
      return .error (.tooShort (shape.length - left.length - 1) title shape.length)
    else recordItems depth title shape left first read fuel
termination_by structural _ _ _ fuel => fuel

end

/-- All of a text. -/
def whole {α : Type} (read : Nat → Reader α) (text : String) : Except Error α :=
  let c := Cursor.start text
  let steps := do
    let a ← read (2 * c.rest.length + 64)
    match ← peekToken? with
    | some _ => failAhead (.malformed .trailingCharacters)
    | none => return a
  (·.1) <$> steps.run c

end Reader

/-- The greatest nesting of brackets in a document. -/
def greatestDepth : Nat := 127

/-- A document read against a schema. -/
def readAs (schema : Schema) (text : String) : Except Error Datum :=
  Reader.whole (fun fuel => Reader.datum greatestDepth fuel schema) text

/-- A document of any shape. -/
def read (text : String) : Except Error Json :=
  Reader.whole (fun fuel => Reader.value greatestDepth fuel) text

/-- A document of any shape, or `none` if the text is no JSON. -/
def read? (text : String) : Option Json := (read text).toOption

end LiveForm.Json

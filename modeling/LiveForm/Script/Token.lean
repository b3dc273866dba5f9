import LiveForm.Script.Position
import LiveForm.Script.SyntaxError

/-!
# Tokens

The words a script is made of. Keywords, operators and brackets are symbols under their own spelling. A
template text comes in pieces: a `piece` is followed by the tokens of a block in braces and then by the
next piece, and the last one is an ordinary `text`. What is no token is a `fault`, and it is reported
when the reader of the script arrives at it.
-/

namespace LiveForm.Script

inductive Token where
  | int (n : Int64)
  | float (x : Float)
  | char (c : Char)
  | text (s : String)
  /-- A piece of a template text that a block follows. -/
  | piece (s : String)
  | name (s : String)
  /-- A keyword, an operator or a bracket. -/
  | symbol (s : String)
  /-- A word or sign that is kept for later use. -/
  | reserved (s : String)
  | fault (f : TokenFault)
  | finish

/-- A token and where it starts. -/
structure Located where
  token : Token
  position : Position

namespace Token

/-- The keywords of the language. -/
def keywords : List String :=
  ["true", "false", "let", "const", "if", "else", "switch", "do", "while", "until", "loop", "for",
    "in", "fn", "private", "continue", "break", "return", "throw", "try", "catch", "export", "as"]

/-- Words that name built-in functions; they may be called but not be defined. -/
def callable : List String :=
  ["print", "debug", "type_of", "eval", "Fn", "call", "curry", "is_shared", "is_def_fn",
    "is_def_var"]

/-- The built-in functions that may also be called as methods. -/
def callableAsMethod : List String := ["type_of", "call", "curry", "is_shared"]

/-- Words without a meaning that may not be used as names. -/
def reservedWords : List String :=
  ["this", "var", "static", "shared", "goto", "match", "case", "default", "public", "protected",
    "new", "use", "with", "is", "module", "package", "super", "void", "null", "nil", "spawn",
    "thread", "go", "sync", "async", "await", "yield", "import"] ++ callable

/-- The operators and brackets, longer ones before their own beginnings. -/
def signs : List String :=
  ["..=", "**=", "<<=", ">>=", "()", "#\x7b", "+=", "-=", "*=", "**", "/=", "==", "=>", "<=",
    "<<", ">=", ">>", "!=", "|=", "||", "&=", "&&", "^=", "%=", "..", "::", "?.", "??", "?[", "\x7b",
    "\x7d", "(", ")", "[", "]", "+", "-", "*", "/", "%", "=", "<", ">", "!", "|", "&", "^", ".", ":",
    ",", ";"]

/-- Signs without a meaning, longer ones before their own beginnings. -/
def reservedSigns : List String :=
  ["...", "===", "!==", "::<", "# \x7b", "(*", "*)", "#!", "++", "--", "->", "<-", "<|", "|>", ":=", ":;",
    "!.", "#", "?", "~", "@", "$"]

/-- The signs that end a binary operation with an assignment, and the operation. -/
def compoundAssignments : List (String × String) :=
  [("+=", "+"), ("-=", "-"), ("*=", "*"), ("/=", "/"), ("%=", "%"), ("**=", "**"), ("<<=", "<<"),
    (">>=", ">>"), ("&=", "&"), ("|=", "|"), ("^=", "^")]

end Token

/-! ## Characters of names -/

def isLetter (c : Char) : Bool := 'a' ≤ c && c ≤ 'z' || 'A' ≤ c && c ≤ 'Z'

def isDigit (c : Char) : Bool := '0' ≤ c && c ≤ '9'

def isNameStart (c : Char) : Bool := isLetter c || c == '_'

def isNameChar (c : Char) : Bool := isNameStart c || isDigit c

/-- Whether a word is a name: after any underscores it goes on with a letter. -/
def isName (s : String) : Bool :=
  match s.toList.dropWhile (· == '_') with
  | c :: rest => isLetter c && rest.all isNameChar
  | [] => false

/-- The digit a character stands for in bases up to 36. -/
def digitValue? (c : Char) : Option Nat :=
  if isDigit c then some (c.toNat - '0'.toNat)
  else if 'a' ≤ c && c ≤ 'z' then some (c.toNat - 'a'.toNat + 10)
  else if 'A' ≤ c && c ≤ 'Z' then some (c.toNat - 'A'.toNat + 10)
  else none

/-- Whether a character is a digit of a base. -/
def isDigitOf (base : Nat) (c : Char) : Bool :=
  match digitValue? c with
  | some d => d < base
  | none => false

/-- The number a row of digits writes in a base, or `none` if a character is no digit of it. -/
def numberOfDigits? (base : Nat) (cs : List Char) : Option Nat :=
  cs.foldlM (fun sum c => do
    let d ← digitValue? c
    if d < base then some (sum * base + d) else none) 0

end LiveForm.Script

import LiveForm.Script.Lexer
import LiveForm.Script.Limits
import LiveForm.Script.Tree

/-!
# The state of the parser

What has been read of a script and what is left (`Progress`), where in the script the parser is
(`Setting`), and the steps that all rules of the grammar are made of: looking at tokens and taking them,
going one level deeper, and asking what a name stands for.
-/

namespace LiveForm.Script

namespace Parser

/-- A variable that the part of the script read so far has introduced. -/
structure Local where
  name : String
  constant : Bool

/-- What has been read, and what is left. -/
structure Progress where
  rest : List Located
  /-- The variables in sight, innermost first. -/
  locals : List Local := []
  /-- How many of them were there when the current block began. -/
  outside : Nat := 0
  /-- The names of surrounding variables that the current closure uses. -/
  externals : List (String × Position) := []
  functions : List Function := []
  closures : Nat := 0

/-- Where in the script the parser is. -/
structure Setting where
  limits : Limits
  /-- The parameters of the fragment. -/
  parameters : List String
  depth : Nat := 0
  /-- The greatest depth, or zero. -/
  greatest : Nat
  pos : Position
  /-- Outside of all blocks. -/
  global : Bool := false
  inLoop : Bool := false
  inFunction : Bool := false
  inClosure : Bool := false
  /-- Among the values of a switch case, which `|` divides. -/
  inCase : Bool := false
  /-- The keys of maps have to be texts. -/
  quotedKeys : Bool := false

abbrev Parse := StateT Progress (Except SyntaxError)

def fail {α : Type} (refusal : Refusal) (p : Position) : Parse α := throw ⟨refusal, p⟩

/-- The next token, which stays. -/
def peek : Parse Located := do
  match (← get).rest with
  | [] => return ⟨.finish, default⟩
  | t :: _ => return t

/-- The next token, taken. The end of the script is never taken away. -/
def next : Parse Located := do
  match (← get).rest with
  | [] => return ⟨.finish, default⟩
  | [t] => return t
  | t :: rest =>
    modify fun c => { c with rest }
    return t

/-- Whether a token is this symbol. -/
def isSymbol (s : String) : Token → Bool
  | .symbol t => s == t
  | _ => false

/-- Whether the next token is this symbol. -/
def comes (s : String) : Parse Bool := do return isSymbol s (← peek).token

/-- The next token taken if it is this symbol; the answer says so, and where it stands. -/
def accept (s : String) : Parse (Bool × Position) := do
  let t ← peek
  if isSymbol s t.token then
    let _ ← next
    return (true, t.position)
  else return (false, t.position)

/-- A symbol that has to come next; the error says what for. -/
def expect (s purpose : String) : Parse Position := do
  let t ← next
  match t.token with
  | .symbol u => if s == u then return t.position else fail (.missing s purpose) t.position
  | .fault f => fail (.token f) t.position
  | _ => fail (.missing s purpose) t.position

/-- A symbol that has to come next, whatever comes instead. -/
def expectPlainly (s purpose : String) : Parse Position := do
  let (found, p) ← accept s
  if found then return p else fail (.missing s purpose) p

/-- One level deeper, or an error where the construct began. -/
def Setting.deeper (s : Setting) : Parse Setting :=
  if Limits.exceeds s.greatest (s.depth + 1) then fail .tooDeep s.pos
  else return { s with depth := s.depth + 1 }

/-- One level deeper in a construct that begins here. -/
def Setting.deeperAt (s : Setting) (p : Position) : Parse Setting := { s with pos := p }.deeper

/-! ## Names -/

def reservedRefusal (word : String) : Refusal :=
  if isName word then .reservedWord word else .reservedSign word

/-- The name of a variable that is introduced. -/
def variableName : Parse (String × Position) := do
  let t ← next
  match t.token with
  | .name s => return (s, t.position)
  | .reserved s =>
    if isName s then fail (.reservedWord s) t.position else fail .variableExpected t.position
  | .fault f => fail (.token f) t.position
  | _ => fail .variableExpected t.position

/-- Introduces a variable. -/
def introduce (name : String) (constant : Bool) : Parse Unit :=
  modify fun c => { c with locals := ⟨name, constant⟩ :: c.locals }

/-- Forgets the variables that were introduced since there were so many. -/
def forget (count : Nat) : Parse Unit :=
  modify fun c => { c with locals := c.locals.drop (c.locals.length - count) }

/-- What a name stands for. -/
inductive Meaning where
  | variable (constant : Bool)
  | function
  | unknown

/-- What a name stands for here; one that is not known is noted as external. -/
def meaning (name : String) (p : Position) : Parse Meaning := do
  let c ← get
  match c.locals.find? (·.name == name) with
  | some found => return .variable found.constant
  | none =>
    if c.functions.any (·.name == name) then return .function
    else
      if !c.externals.any (·.1 == name) then
        set { c with externals := c.externals ++ [(name, p)] }
      return .unknown

/-- A variable in an expression. -/
def nameExpr (s : Setting) (name : String) (p : Position) : Parse Expr := do
  match ← meaning name p with
  | .variable _ => return .variable name true p
  | .function => return .variable name false p
  | .unknown =>
    if s.inClosure || s.parameters.contains name then return .variable name false p
    else fail (.undefinedVariable name) p

end Parser

end LiveForm.Script

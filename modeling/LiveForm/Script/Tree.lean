import LiveForm.Script.Operator
import LiveForm.Script.Position
import LiveForm.Script.ValueText

/-!
# Syntax trees

A compiled script is a list of statements and the functions it defines, closures among them. Chains of
properties, indices and method calls on one value are a single expression with a list of links; this is
what an assignment writes through.

Every node has the position its faults are reported at. That of an operation is the operator's, that of a
chain its first link's.
-/

namespace LiveForm.Script

mutual

inductive Expr where
  | literal (v : Value) (pos : Position)
  /-- A variable. One that is not among the script's own is a parameter, or the name of a function. -/
  | variable (name : String) (own : Bool) (pos : Position)
  /-- A constant of the top level of the script, asked for by that. -/
  | topLevel (name : String) (pos : Position)
  /-- A name inside a module that there is none of, with its arguments if it is called. -/
  | outside (module : String) (args : List Expr) (pos : Position)
  | this (pos : Position)
  | template (parts : List Expr) (pos : Position)
  | array (items : List Expr) (pos : Position)
  | map (members : List (String × Expr)) (pos : Position)
  | unary (op : Operator.Unary) (operand : Expr) (pos : Position)
  | binary (op : Operator) (left right : Expr) (pos : Position)
  | and (left right : Expr) (pos : Position)
  | or (left right : Expr) (pos : Position)
  /-- The left side, or the right one if that is the unit. -/
  | coalesce (left right : Expr) (pos : Position)
  /-- A call. One that is `inScope` works among the variables of the place it stands at. -/
  | call (name : String) (args : List Expr) (inScope : Bool) (pos : Position)
  | chain (root : Expr) (links : List Link)
  /-- Statements in the place of an expression. -/
  | block (body : List Stmt) (pos : Position)
  /-- A closure with the variables it captures. Those that are constants have become literals. -/
  | closure (function : String) (captured : List Expr) (pos : Position)

/-- One step from a value to a part of it. A `safe` step from the unit ends the chain with the unit.
`mark` is the position of the sign that makes the step. -/
inductive Link where
  | property (name : String) (safe : Bool) (mark pos : Position)
  | method (name : String) (args : List Expr) (safe : Bool) (mark pos : Position)
  | index (place : Expr) (safe : Bool) (mark : Position)

inductive Stmt where
  | nothing (pos : Position)
  | expr (e : Expr)
  /-- An assignment, or an operation with one. -/
  | assign (target : Expr) (op : Option Operator) (value : Expr) (mark : Position)
  | block (body : List Stmt) (pos : Position)
  /-- A choice between two blocks, of which the first begins at `bodyPos`. -/
  | branch (condition : Expr) (body otherwise : List Stmt) (bodyPos otherPos pos : Position)
  | while (condition : Expr) (body : List Stmt) (bodyPos pos : Position)
  | loop (body : List Stmt) (bodyPos pos : Position)
  /-- A loop that runs its body first; it goes on while the condition is `goesOn`. -/
  | doWhile (body : List Stmt) (condition : Expr) (goesOn : Bool) (pos : Position)
  | for (item : String) (counter : Option String) (source : Expr) (body : List Stmt)
      (bodyPos pos : Position)
  | switch (subject : Expr) (cases : List Case) (otherwise : Option Expr) (pos : Position)
  | break (value : Option Expr) (pos : Position)
  | continue (pos : Position)
  | return (value : Option Expr) (pos : Position)
  | throw (value : Option Expr) (pos : Position)
  | try (body : List Stmt) (name : Option String) (handler : List Stmt) (bodyPos pos : Position)
  /-- A variable. One that `replaces` takes the place of the one of that name in the same block. -/
  | declare (name : String) (constant replaces topLevel : Bool) (value : Expr) (pos : Position)
  | expose (name : String) (pos : Position)

/-- One arm of a switch. A case is for single values, or for ranges, or for both. -/
inductive Case where
  | case (values : List Value) (ranges : List (Int64 × Int64 × Bool)) (condition : Option Expr)
      (action : Expr)

end

/-- A function of a script. The first parameters of a closure take what it has captured. -/
structure Function where
  name : String
  parameters : List String
  body : List Stmt
  /-- The kind of values that the function is a method of, if it is one of a single kind. -/
  kind : Option String := none

/-- The name of a kind of values as a function names it. -/
def Function.kindOf (written : String) : String :=
  if written == "int" then "i64" else if written == "float" then "f64" else written

/-- A compiled script. -/
structure Program where
  parameters : List String
  body : List Stmt
  functions : List Function

namespace Program

/-- The function of a name that takes so many arguments. -/
def function? (p : Program) (name : String) (count : Nat) : Option Function :=
  p.functions.find? fun f => f.name == name && f.parameters.length == count && f.kind.isNone

/-- The function of a name for this kind of values alone. -/
def ownMethod? (p : Program) (kind name : String) (count : Nat) : Option Function :=
  p.functions.find? fun f => f.name == name && f.parameters.length == count && f.kind == some kind

/-- The function that a method call on a value of this kind means: one for the kind before one for all. -/
def method? (p : Program) (kind name : String) (count : Nat) : Option Function :=
  (p.ownMethod? kind name count).or (p.function? name count)

end Program

instance : Inhabited Expr := ⟨.literal .unit default⟩

instance : Inhabited Stmt := ⟨.nothing default⟩

namespace Link

/-- The position of the sign that makes the step. -/
def markOf : Link → Position
  | .property _ _ mark _ | .method _ _ _ mark _ | .index _ _ mark => mark

/-- Whether the step from the unit is the unit. -/
def isSafe : Link → Bool
  | .property _ safe _ _ | .method _ _ safe _ _ | .index _ safe _ => safe

end Link

namespace Expr

/-- The position faults of an expression are reported at. -/
def position : Expr → Position
  | .literal _ p | .variable _ _ p | .topLevel _ p | .outside _ _ p | .this p | .template _ p | .array _ p | .map _ p
  | .unary _ _ p | .binary _ _ _ p | .and _ _ p | .or _ _ p | .coalesce _ _ p | .call _ _ _ p
  | .block _ p | .closure _ _ p => p
  | .chain root links =>
    match links with
    | [] => root.position
    | link :: _ => link.markOf

/-- The position of the leftmost part of a chain, of a template, or of a choice between two sides. -/
def start : Expr → Position
  | .and l _ _ | .or l _ _ | .coalesce l _ _ => l.start
  | .chain root _ => root.start
  | .template parts p =>
    match parts with
    | [] => p
    | part :: _ => part.start
  | e => e.position

/-- The expression with its faults reported elsewhere. -/
def moved (p : Position) : Expr → Expr
  | .literal v _ => .literal v p
  | .variable name own _ => .variable name own p
  | .topLevel name _ => .topLevel name p
  | .outside module args _ => .outside module args p
  | .this _ => .this p
  | .template parts _ => .template parts p
  | .array items _ => .array items p
  | .map members _ => .map members p
  | .unary op e _ => .unary op e p
  | .binary op l r _ => .binary op l r p
  | .and l r _ => .and l r p
  | .or l r _ => .or l r p
  | .coalesce l r _ => .coalesce l r p
  | .call name args inScope _ => .call name args inScope p
  | .block body _ => .block body p
  | .closure function captured _ => .closure function captured p
  | .chain root links => .chain root links

/-- Whether an expression is the literal of this truth value. -/
def isFlag (b : Bool) : Expr → Bool
  | .literal (.bool c) _ => b == c
  | _ => false

/-- Whether an expression is the literal of the unit. -/
def isUnit : Expr → Bool
  | .literal .unit _ => true
  | _ => false

/-- Whether a literal stands here. -/
def isLiteral : Expr → Bool
  | .literal _ _ => true
  | _ => false

/-- Whether an expression is a call of a function, by its name or by an operator. -/
def isCall : Expr → Bool
  | .call _ _ _ _ | .unary _ _ _ | .binary _ _ _ _ => true
  | _ => false

mutual

/-- The value of an expression that is made of literals. -/
def literal? : Expr → Option Value
  | .literal v _ => some v
  | .array items _ => (literals? items).map .array
  | .map members _ => (memberLiterals? members).map .ofMembers
  | .template parts _ => (literals? parts).map fun vs =>
      .text (vs.foldl (fun text v => text ++ v.shown) "")
  | .binary op (.literal (.int a) _) (.literal (.int b) _) _ =>
    match op with
    | .span => some (.range a b false)
    | .closedSpan => some (.range a b true)
    | _ => none
  | _ => none

def literals? : List Expr → Option (List Value)
  | [] => some []
  | e :: rest => do return (← literal? e) :: (← literals? rest)

def memberLiterals? : List (String × Expr) → Option (List (String × Value))
  | [] => some []
  | (k, e) :: rest => do return (k, ← literal? e) :: (← memberLiterals? rest)

end

end Expr

namespace Stmt

/-- Whether nothing has to follow a statement before the next one. -/
def isClosed : Stmt → Bool
  | .nothing _ | .block _ _ | .branch _ _ _ _ _ _ | .while _ _ _ _ | .loop _ _ _ | .for _ _ _ _ _ _
  | .switch _ _ _ _ | .try _ _ _ _ _ => true
  | _ => false

def isNothing : Stmt → Bool
  | .nothing _ => true
  | _ => false

/-- The position of a statement. -/
def position : Stmt → Position
  | .expr e => if e.isCall then e.position else e.start
  | .assign _ _ _ p | .nothing p | .block _ p | .branch _ _ _ _ _ p | .while _ _ _ p | .loop _ _ p
  | .doWhile _ _ _ p | .for _ _ _ _ _ p | .switch _ _ _ p | .break _ p | .continue p | .return _ p
  | .throw _ p | .try _ _ _ _ p | .declare _ _ _ _ _ p | .expose _ p => p

end Stmt

end LiveForm.Script

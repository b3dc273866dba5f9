import LiveForm.Script.Tree

/-!
# What does nothing but give a value

An expression is *constant* if it is made of literals, and *pure* if computing it can do nothing but give a
value. Calls are never pure, whatever they call, and an endless loop is not either. A statement is pure if it
is made of pure ones; one that introduces a variable is pure only as long as nobody sees the variable
(`Stmt.isPureInside`).

Whether reading a variable can fault is not asked: the parser knows that it is there.
-/

namespace LiveForm.Script

namespace Expr

mutual

/-- Whether an expression is made of literals. -/
def isConstant : Expr → Bool
  | .literal _ _ => true
  | .array items _ => areConstant items
  | .map members _ => membersConstant members
  | .template parts _ => areConstant parts
  | _ => false

def areConstant : List Expr → Bool
  | [] => true
  | e :: rest => isConstant e && areConstant rest

def membersConstant : List (String × Expr) → Bool
  | [] => true
  | (_, e) :: rest => isConstant e && membersConstant rest

end

end Expr

namespace Stmt

/-- Whether a statement introduces something that what follows it may use. -/
def isDeclaration : Stmt → Bool
  | .declare _ _ _ _ _ _ | .expose _ _ => true
  | _ => false

/-- Whether a statement leaves its block for good. -/
def leaves : Stmt → Bool
  | .return _ _ | .throw _ _ | .break _ _ | .continue _ => true
  | _ => false

/-- Whether the value of a statement may be the value of its block. -/
def hasValue : Stmt → Bool
  | .expr _ | .block _ _ | .branch _ _ _ _ _ _ | .switch _ _ _ _ => true
  | _ => false

end Stmt

mutual

/-- Whether computing an expression does nothing but give a value. -/
def Expr.isPure : Expr → Bool
  | .literal _ _ | .variable _ _ _ | .topLevel _ _ => true
  | .array items _ => Expr.arePure items
  | .map members _ => Expr.membersPure members
  | .template parts _ => Expr.arePure parts
  | .and l r _ | .or l r _ | .coalesce l r _ => Expr.isPure l && Expr.isPure r
  | .block body _ => Stmt.arePure body
  | _ => false

def Expr.arePure : List Expr → Bool
  | [] => true
  | e :: rest => Expr.isPure e && Expr.arePure rest

def Expr.membersPure : List (String × Expr) → Bool
  | [] => true
  | (_, e) :: rest => Expr.isPure e && Expr.membersPure rest

/-- Whether a statement does nothing but give a value. -/
def Stmt.isPure : Stmt → Bool
  | .nothing _ => true
  | .expr e => Expr.isPure e
  | .block body _ => Stmt.arePure body
  | .branch condition body otherwise _ _ _ =>
    Expr.isPure condition && Stmt.arePure body && Stmt.arePure otherwise
  | .switch subject cases (some otherwise) _ =>
    Expr.isPure subject && Case.arePure cases && Expr.isPure otherwise
  | .while condition _ _ _ => condition.isFlag false
  | .doWhile body condition goesOn _ => condition.isFlag (!goesOn) && Stmt.arePure body
  | .for _ _ source body _ _ => Expr.isPure source && Stmt.arePure body
  | .try body _ handler _ _ => Stmt.arePure body && Stmt.arePure handler
  | _ => false

def Stmt.arePure : List Stmt → Bool
  | [] => true
  | s :: rest => Stmt.isPure s && Stmt.arePure rest

/-- Whether the arms of a switch are pure. An arm for no value at all does not count. -/
def Case.arePure : List Case → Bool
  | [] => true
  | .case values ranges condition action :: rest =>
    (values.isEmpty && ranges.isEmpty || Expr.conditionPure condition && Expr.isPure action) &&
      Case.arePure rest

def Expr.conditionPure : Option Expr → Bool
  | none => true
  | some e => Expr.isPure e

end

mutual

/-- Whether a statement does nothing outside of its block but give a value. -/
def Stmt.isPureInside : Stmt → Bool
  | .declare _ _ _ _ value _ => value.isPure
  | .expr e => Expr.isPureInside e
  | s => s.isPure

def Stmt.arePureInside : List Stmt → Bool
  | [] => true
  | s :: rest => Stmt.isPureInside s && Stmt.arePureInside rest

def Expr.isPureInside : Expr → Bool
  | .block body _ => Stmt.arePureInside body
  | e => e.isPure

end

end LiveForm.Script

/-!
# Operators

The operators of scripts, their signs, and how tightly they bind. Ranges are made by operators too, and a
test for being within a collection asks the collection, by the function `contains`.
-/

namespace LiveForm.Script

/-- The operators that compute a value from two. -/
inductive Operator where
  | plus
  | minus
  | times
  | over
  | modulo
  | power
  | shiftLeft
  | shiftRight
  | bitAnd
  | bitOr
  | bitXor
  | equal
  | different
  | less
  | atMost
  | greater
  | atLeast
  | span
  | closedSpan
  /-- The collection on the left has the item on the right. -/
  | holding
  deriving DecidableEq, Repr

namespace Operator

/-- The operators that compute a value from one. -/
inductive Unary where
  | plus
  | minus
  | not
  deriving DecidableEq, Repr

def Unary.sign : Unary → String
  | .plus => "+"
  | .minus => "-"
  | .not => "!"

/-- The operators that a script writes by their own signs. -/
def all : List Operator :=
  [.plus, .minus, .times, .over, .modulo, .power, .shiftLeft, .shiftRight, .bitAnd, .bitOr, .bitXor,
    .equal, .different, .less, .atMost, .greater, .atLeast, .span, .closedSpan]

/-- The sign of an operator, or the name of the function that does its work. -/
def sign : Operator → String
  | .plus => "+"
  | .minus => "-"
  | .times => "*"
  | .over => "/"
  | .modulo => "%"
  | .power => "**"
  | .shiftLeft => "<<"
  | .shiftRight => ">>"
  | .bitAnd => "&"
  | .bitOr => "|"
  | .bitXor => "^"
  | .equal => "=="
  | .different => "!="
  | .less => "<"
  | .atMost => "<="
  | .greater => ">"
  | .atLeast => ">="
  | .span => ".."
  | .closedSpan => "..="
  | .holding => "contains"

/-- The operator of a sign. -/
def ofSign? (s : String) : Option Operator := all.find? (·.sign == s)

/-- Whether an operator may stand before the equals sign of an assignment. -/
def mayAssign : Operator → Bool
  | .plus | .minus | .times | .over | .modulo | .power | .shiftLeft | .shiftRight | .bitAnd | .bitOr
  | .bitXor => true
  | _ => false

/-- Whether an operator compares. -/
def compares : Operator → Bool
  | .equal | .different | .less | .atMost | .greater | .atLeast => true
  | _ => false

/-- How tightly a sign binds its two sides; signs that are no operators do not bind at all. -/
def precedence (sign : String) : Nat :=
  if ["||", "^", "|"].contains sign then 30
  else if ["&&", "&"].contains sign then 60
  else if ["==", "!="].contains sign then 90
  else if ["in", "!in"].contains sign then 110
  else if ["<", "<=", ">", ">="].contains sign then 130
  else if sign == "??" then 135
  else if ["..", "..="].contains sign then 140
  else if ["+", "-"].contains sign then 150
  else if ["*", "/", "%"].contains sign then 180
  else if sign == "**" then 190
  else if ["<<", ">>"].contains sign then 210
  else 0

/-- Whether of several equal operators in a row the rightmost is computed first. -/
def bindsRight (sign : String) : Bool := sign == "**"

end Operator

end LiveForm.Script

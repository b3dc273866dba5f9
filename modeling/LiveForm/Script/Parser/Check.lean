import LiveForm.Script.Parser.Progress

/-!
# What the parser makes of expressions it has read

Some expressions can be seen to be wrong where they stand: a number for a condition, a text for an index of
an array, the left side of an assignment that nothing can be assigned to. The others become nodes of the
tree here.
-/

namespace LiveForm.Script

namespace Parser

/-! ## Kinds of expressions that cannot be right -/

/-- What an expression is that can never be a truth value. -/
def neverFlag? : Expr → Option String
  | .literal v _ =>
    match v with
    | .unit => some "()"
    | .int _ => some "a number"
    | .float _ => some "a floating-point number"
    | .char _ => some "a character"
    | .text _ => some "a string"
    | .function _ _ => some v.kindName
    | _ => none
  | .template _ _ => some "a string"
  | .array _ _ => some "an array"
  | .map _ _ => some "an object map"
  | _ => none

def requireFlag (e : Expr) : Parse Expr :=
  match neverFlag? e with
  | some kind => fail (.wrongKind "a boolean expression" kind) e.start
  | none => return e

/-- What an expression is that can never be walked through. -/
def neverIterable? : Expr → Option String
  | .literal v _ =>
    match v with
    | .unit => some "()"
    | .bool _ => some "a boolean"
    | .int _ => some "a number"
    | .float _ => some "a floating-point number"
    | .char _ => some "a character"
    | _ => none
  | .map _ _ => some "an object map"
  | _ => none

def requireIterable (e : Expr) : Parse Expr :=
  match neverIterable? e with
  | some kind => fail (.wrongKind "an iterable value" kind) e.start
  | none => return e

/-- A block cannot stand for a condition. -/
def refuseBlock : Parse Unit := do
  let t ← peek
  if isSymbol "\x7b" t.token then fail (.expressionExpected "a boolean") t.position

def typoOfEquals : Refusal := .token (.foreign "Possibly a typo of '=='?")

/-- An assignment cannot stand for a condition. -/
def refuseAssignment : Parse Unit := do
  let t ← peek
  if isSymbol "=" t.token then fail typoOfEquals t.position

/-- Why a literal cannot be an index of arrays, texts and integers. -/
def badPlace? : Expr → Option String
  | .literal v _ =>
    match v with
    | .text _ => some "Array, string or bit-field expects numeric index, not a string"
    | .float _ => some "Array, string or bit-field expects integer index, not a float"
    | .char _ => some "Array, string or bit-field expects integer index, not a character"
    | .unit => some "Array, string or bit-field expects integer index, not ()"
    | .bool _ => some "Array, string or bit-field expects integer index, not a boolean"
    | _ => none
  | .template _ _ => some "Array, string or bit-field expects numeric index, not a string"
  | .and _ _ _ | .or _ _ _ =>
    some "Array, string or bit-field expects integer index, not a boolean"
  | _ => none

/-- Why a literal cannot be an index of maps. -/
def badKey? : Expr → Option String
  | .literal v _ =>
    match v with
    | .int _ => some "Object map expects string index, not a number"
    | .float _ => some "Object map expects string index, not a float"
    | .char _ => some "Object map expects string index, not a character"
    | .unit => some "Object map expects string index, not ()"
    | .bool _ => some "Object map expects string index, not a boolean"
    | _ => none
  | .and _ _ _ | .or _ _ _ => some "Object map expects string index, not a boolean"
  | _ => none

/-- An index that can be seen to be wrong, and where. -/
def badIndex? (indexed place : Expr) : Option (String × Position) :=
  let reason := match indexed with
    | .map _ _ => badKey? place
    | .array _ _ | .template _ _ => badPlace? place
    | .literal v _ =>
      match v with
      | .int _ | .text _ => badPlace? place
      | _ => none
    | _ => none
  reason.map (·, place.start)

/-! ## Literals -/

/-- The minus sign before an expression; on a number it becomes part of it. -/
def negate (e : Expr) (p : Position) : Expr :=
  match e with
  | .literal (.int n) _ =>
    if n.toInt = -2 ^ 63 then .literal (.float (-(Float.ofInt n.toInt))) p
    else .literal (.int (-n)) p
  | .literal (.float x) _ => .literal (.float (-x)) p
  | _ => .unary .minus e p

/-- The plus sign before an expression; a number stays as it is. -/
def affirm (e : Expr) (p : Position) : Expr :=
  match e with
  | .literal (.int _) _ | .literal (.float _) _ => e
  | _ => .unary .plus e p

/-! ## Assignments -/

/-- The position of the first method call among links, which nothing can be assigned to. -/
def methodAmong? : List Link → Option Position
  | [] => none
  | .method _ _ _ _ p :: _ => some p
  | _ :: rest => methodAmong? rest

/-- An assignment to an expression, if it can be assigned to. -/
def assignment (target : Expr) (op : Option Operator) (value : Expr) (mark : Position) :
    Parse Stmt := do
  let done : Stmt := .assign target op value mark
  match target with
  | .this _ | .topLevel _ _ => return done
  | .variable name own p =>
    if own then
      match (← get).locals.find? (·.name == name) with
      | some found => if found.constant then fail (.constantAssigned name) p
      | none => pure ()
    return done
  | .chain root links =>
    match methodAmong? links with
    | some p => fail .notAssignable p
    | none =>
      match root with
      | .variable _ _ _ | .topLevel _ _ | .this _ => return done
      | _ => fail .notAssignable root.position
  | .and _ _ _ | .or _ _ _ | .coalesce _ _ _ =>
    if op.isNone then fail typoOfEquals mark else fail .notAssignable target.position
  | _ =>
    if target.literal?.isSome then fail (.constantAssigned "") target.start
    else fail .notAssignable target.position

/-! ## Operations -/

/-- The operation of a sign on two expressions. -/
def operation (sign : String) (left right : Expr) (p : Position) : Parse Expr := do
  match sign with
  | "&&" =>
    let right ← requireFlag right
    return .and (← requireFlag left) right p
  | "||" =>
    let right ← requireFlag right
    return .or (← requireFlag left) right p
  | "??" => return .coalesce left right p
  | "in" => return .binary .holding right left p
  | "!in" => return .unary .not (.binary .holding right left p) p
  | _ =>
    match Operator.ofSign? sign with
    | some op => return .binary op left right p
    | none => fail (.unknownOperator sign) p

/-- How tightly the next token binds; a reserved sign there is an unknown operator. -/
def bindingOf (s : Setting) (t : Located) : Parse Nat :=
  match t.token with
  | .symbol sign => return if s.inCase && sign == "|" then 0 else Operator.precedence sign
  | .reserved sign => if isName sign then return 0 else fail (.unknownOperator sign) t.position
  | _ => return 0

/-- The words after which `return` and `throw` have no value. -/
def startsNoValue (t : Located) : Bool :=
  match t.token with
  | .symbol s =>
    ["return", "throw", "let", "const", "break", "continue", "try", "export", "fn", "private"].contains s
  | _ => false

/-- The spelling of a token that cannot start an expression. -/
def spelling : Token → String
  | .symbol s | .reserved s | .name s => s
  | _ => ""

def closeMap : String := "to end this object map literal"

def closeArray : String := "to end this array literal"

def closeSwitch : String := "to end this switch block"

end Parser

end LiveForm.Script

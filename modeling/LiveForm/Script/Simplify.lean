import LiveForm.Script.Builtin
import LiveForm.Script.Purity
import LiveForm.Script.Token

/-!
# Simpler scripts

Before a script runs, what is known of it is worked out: operators on literals become literals, constants
become their values, choices between blocks whose condition is known become one of the blocks, and
statements that do nothing are dropped. A script can notice this by the number of its steps, and by three
rules that let through what a run would refuse or do otherwise: a truth value that is joined to something is
dropped even if the other side is no truth value, a condition with nothing to choose between is no condition
any more, and `x = x + 1` becomes `x += 1`.

Blocks are simplified statement by statement, again and again until nothing changes. Whatever a rule changes
is noted (`Knowledge.changed`); with the changes the rounds come to an end, and the fuel is more than there
can be rounds and levels.
-/

namespace LiveForm.Script

namespace Simplify

/-- What is known at a place of a script. -/
structure Knowledge where
  /-- The variables in sight, innermost first, with the values of those that are constants. -/
  scope : List (String × Option Value) := []
  /-- Whether something has been changed in this round. -/
  changed : Bool := false

abbrev Pass := StateM Knowledge

/-- A change is noted. -/
def note : Pass Unit := modify fun k => { k with changed := true }

/-- Something put in the place of something else. -/
def put {α : Type} (a : α) : Pass α := do
  note
  return a

/-- The value of a constant. -/
def constant? (name : String) : Pass (Option Value) := do
  return ((← get).scope.lookup name).join

/-! ## Expressions -/

/-- The parts of a template with texts that follow each other joined, and without those that are empty. -/
def joinParts : (first : Expr) → List Expr → Pass (List Expr)
  | first, [] => return [first]
  | first, second :: rest =>
    match first, second with
    | .literal (.text s) p, .literal (.text t) _ => do
      joinParts (← put (.literal (.text (s ++ t)) p)) rest
    | first, .literal .unit _ => do joinParts (← put first) rest
    | .literal .unit _, second => do joinParts (← put second) rest
    | first, .literal (.text "") _ => do joinParts (← put first) rest
    | .literal (.text "") _, second => do joinParts (← put second) rest
    | first, second => return first :: (← joinParts second rest)

/-- The item of a list at an index, which counts from the end if it is negative. -/
def itemAt? {α : Type} (items : List α) (index : Int64) : Option α :=
  (place? items.length index).bind fun n => items[n]?

/-- What a single link from a literal leads to, if it can be told. -/
def reach? (root : Expr) (link : Link) : Option Expr :=
  match root, link with
  | .map members p, .property name _ _ _ => member? members name p
  | .map members p, .index (.literal (.text name) _) _ _ => member? members name p
  | .array items p, .index (.literal (.int i) _) _ _ =>
    if Expr.arePure items then (itemAt? items i).map (·.moved p) else none
  | .literal (.int n) p, .index (.literal (.int i) _) _ _ =>
    (place? 64 i).map fun bit => .literal (.bool (bitsIn n bit 1 != 0)) p
  | .literal (.text s) p, .index (.literal (.int i) _) _ _ =>
    (itemAt? s.toList i).map fun c => .literal (.char c) p
  | root, .method name [] _ _ p =>
    if !root.isConstant then none
    else
      match name with
      | "type_of" => root.literal?.map fun v => .literal (.text v.kindName) p
      | "is_shared" => some (.literal (.bool false) p)
      | _ => none
  | _, _ => none
where
  member? (members : List (String × Expr)) (name : String) (p : Position) : Option Expr :=
    if Expr.membersPure members then
      some (((members.lookup name).map (·.moved p)).getD (.literal .unit p))
    else none

/-- The values of arguments that are all constant. -/
def values? (args : List Expr) : Option (List Value) :=
  if Expr.areConstant args then Expr.literals? args else none

/-- What a call comes to, if it can be told. -/
def answer? (name : String) (args : List Value) : Option Value :=
  match name, args with
  | "Fn", [.text f] => if isName f then some (.function f []) else none
  | "curry", .function f captured :: a :: more => some (.function f (captured ++ a :: more))
  | "type_of", [v] => some (.text v.kindName)
  | "is_shared", [_] => some (.bool false)
  | _, _ => none

/-- What an operator on two constants comes to, if it can be told and is not too large. -/
def operation? (limits : Limits) (op : Operator) (l r : Expr) : Option Value :=
  match values? [l, r] with
  | some [a, b] =>
    match op.direct? a b with
    | some (.ok v) =>
      if Limits.exceeds limits.textSize v.size.bytes || Limits.exceeds limits.arraySize v.size.items then none
      else some v
    | _ => none
  | _ => none

/-- Whether a chain starts from something that keeps its name. -/
def isPlace : Expr → Bool
  | .variable _ _ _ | .topLevel _ _ | .this _ => true
  | _ => false

/-! ## Statements -/

mutual

/-- A statement as the statements it stands for. A block in which nothing is declared is its statements. -/
def flat : Stmt → List Stmt
  | .block body p => if body.any (·.isDeclaration) then [.block body p] else flatAll body
  | s => [s]

def flatAll : List Stmt → List Stmt
  | [] => []
  | s :: rest => flat s ++ flatAll rest

end

/-- What the statements of a block are for. -/
inductive Use where
  /-- They are a whole script, or the body of a function. -/
  | whole
  /-- The value of the last one is used. -/
  | value
  /-- Only what they do is used. -/
  | effect
  deriving DecidableEq

namespace Use

/-- Whether a statement does nothing in a block of this use. Only inside of the script it is known that
nobody sees a variable afterwards. -/
def drops (use : Use) (s : Stmt) : Bool := if use == .whole then s.isPure else s.isPureInside

/-- The use of a block inside of another one. -/
def inner (use : Use) : Use := if use == .effect then .effect else .value

end Use

/-- The statements up to the first one that leaves the block. -/
def untilLeft : List Stmt → List Stmt
  | [] => []
  | s :: rest => if s.leaves then [s] else s :: untilLeft rest

/-- Whether the statements before a statement are needed for it as they stand. -/
def isFirm (use : Use) (s : Stmt) : Bool :=
  match s with
  | .declare _ _ _ _ value _ => !use.drops s || value.isConstant
  | .expr e => !use.drops s || !e.isConstant
  | s => !use.drops s

/-- The place of the last firm statement. -/
def lastFirm (use : Use) (body : List Stmt) : Nat :=
  ((body.zipIdx.filter fun (s, _) => isFirm use s).getLast?.map (·.2)).getD 0

/-- The statements without those that do nothing. The last one stays if its value is used. -/
def withoutIdle (use : Use) (body : List Stmt) : List Stmt :=
  let firm := lastFirm use body
  let last := body.length - 1
  (body.zipIdx.filter fun (s, n) =>
    use != .effect && n == last || !(s.isPure || use.drops s && firm ≤ n)).map (·.1)

/-- The end of a block whose value is used, the last statement first. A `return` at the end of the whole is
just its value. -/
def trimValue (use : Use) : List Stmt → Pass (List Stmt)
  | [] => return []
  | [.return value p] =>
    match use, value with
    | .whole, none => put []
    | .whole, some e => put [.expr e]
    | _, value => return [.return value p]
  | [s] => if !s.hasValue && use.drops s then put [] else return [s]
  | last :: s :: rest =>
    match use, last with
    | .whole, .return (some e) _ => put (.expr e :: s :: rest)
    | .whole, .return none p =>
      if s.hasValue then put (.nothing p :: s :: rest)
      else do
        note
        trimValue use (s :: rest)
    | use, last =>
      if last.hasValue || !use.drops last then return last :: s :: rest
      else if s.hasValue then
        if last.isNothing then return last :: s :: rest
        else put (.nothing last.position :: s :: rest)
      else do
        note
        trimValue use (s :: rest)
termination_by body => body.length

/-- The end of a block whose value is not used, the last statement first. -/
def trimEffect (use : Use) : List Stmt → Pass (List Stmt)
  | [] => return []
  | last :: rest => do
    if use.drops last then
      note
      trimEffect use rest
    else return last :: rest

/-- Statements of which some may have been dropped. -/
def dropped (before after : List Stmt) : Pass (List Stmt) :=
  if after.length < before.length then put after else return after

/-- Whether an arm of a switch is never taken. -/
def neverTaken : Case → Bool
  | .case _ _ (some condition) _ => condition.isFlag false
  | _ => false

/-- Whether an arm of a switch has no condition. -/
def isUnconditional : Option Expr → Bool
  | none => true
  | some condition => condition.isFlag true

/-- What is left of a switch whose subject is known. -/
inductive Chosen where
  /-- A single action, or none. -/
  | action (e : Option Expr)
  /-- An action if a condition holds; otherwise the default. -/
  | conditional (condition action : Expr)
  /-- The arms with a range around the subject, one after the other. -/
  | ranges (cases : List Case)

/-- What is left of a switch for a known subject. Of several arms with the value of the subject only one
without a condition counts. -/
def chosenOf (v : Value) (cases : List Case) (otherwise : Option Expr) : Chosen :=
  let around : Chosen :=
    let ranged := cases.filterMap fun (.case _ ranges condition action) =>
      if ranges.isEmpty then none else some (ranges, condition, action)
    let arms := ranged.flatMap fun (ranges, condition, action) =>
      (ranges.filter (Value.liesIn v)).map fun _ => (condition, action)
    let count := (ranged.flatMap fun (ranges, _, _) => ranges).length
    if count = 1 || ranged.all fun (_, condition, _) => isUnconditional condition then
      match arms with
      | (condition, action) :: _ => taken condition action
      | [] => .action otherwise
    else
      .ranges (ranged.map fun (ranges, condition, action) =>
        .case [] (ranges.filter (Value.liesIn v)) condition action)
  match cases.filterMap fun (.case values _ condition action) =>
      if values.any (·.sameLiteral v) then some (condition, action) else none with
  | [] => around
  | [(condition, action)] => taken condition action
  | arms =>
    match arms.find? fun (condition, _) => isUnconditional condition with
    | some (_, action) => .action (some action)
    | none => around
where
  taken (condition : Option Expr) (action : Expr) : Chosen :=
    match condition with
    | some c => if c.isFlag true then .action (some action) else .conditional c action
    | none => .action (some action)

/-- An assignment of what an operator makes of the variable itself, as an operation with assignment. -/
def intoItself? : Stmt → Option Stmt
  | .assign (.variable name own p) none (.binary op (.variable operand _ _) r mark) _ =>
    if name == operand && op.mayAssign then some (.assign (.variable name own p) (some op) r mark)
    else none
  | _ => none

mutual

/-- An expression. What is `linked`, the last index of a chain, is simplified without being
replaced by something that is no chain. -/
def expr (limits : Limits) : (fuel : Nat) → (linked : Bool) → Expr → Pass Expr
  | 0, _, e => return e
  | fuel + 1, linked, e => do
    match e with
    | .variable name _ p =>
      match ← constant? name with
      | some v => put (.literal v p)
      | none => return e
    | .block [] p => put (.literal .unit p)
    | .block [.expr inner] p =>
      if inner.isCall then onlyBlock limits fuel [.expr inner] p
      else do
        put (← expr limits fuel false inner)
    | .block body p => onlyBlock limits fuel body p
    | .chain (.literal .unit p) (first :: rest) =>
      if first.isSafe then put (.literal .unit p)
      else chain limits fuel linked (.literal .unit p) (first :: rest)
    | .chain root links => chain limits fuel linked root links
    | .template parts p =>
      if e.isConstant then
        match e.literal? with
        | some v => put (.literal v p)
        | none => return e
      else
        match ← parts.mapM (expr limits fuel false) with
        | [] => put (.literal (.text "") p)
        | first :: rest => return .template (← joinParts first rest) p
    | .array items p =>
      match values? items with
      | some vs => put (.literal (.array vs) p)
      | none => return .array (← items.mapM (expr limits fuel false)) p
    | .map members p =>
      if e.isConstant then
        match e.literal? with
        | some v => put (.literal v p)
        | none => return e
      else
        return .map (← members.mapM fun (k, member) => do return (k, ← expr limits fuel false member)) p
    | .and l r p =>
      if l.isFlag true then put (← expr limits fuel false r)
      else if l.isFlag false then put l
      else if r.isFlag true then put (← expr limits fuel false l)
      else return .and (← expr limits fuel false l) (← expr limits fuel false r) p
    | .or l r p =>
      if l.isFlag false then put (← expr limits fuel false r)
      else if l.isFlag true then put l
      else if r.isFlag false then put (← expr limits fuel false l)
      else return .or (← expr limits fuel false l) (← expr limits fuel false r) p
    | .coalesce l r p =>
      if l.isUnit then put (← expr limits fuel false r)
      else if l.isConstant then put l
      else return .coalesce l r p
    | .unary .not (.literal (.bool b) p) _ => put (.literal (.bool !b) p)
    | .unary op operand p => return .unary op (← expr limits fuel false operand) p
    | .binary op l r p =>
      match operation? limits op l r with
      | some v => put (.literal v p)
      | none => return .binary op (← expr limits fuel false l) (← expr limits fuel false r) p
    | .call name args inScope p =>
      match (values? args).bind (answer? name) with
      | some v => put (.literal v p)
      | none => return .call name (← args.mapM (expr limits fuel false)) inScope p
    | .outside module args p => return .outside module (← args.mapM (expr limits fuel false)) p
    | .closure name captured p =>
      let captured ← captured.mapM (expr limits fuel false)
      match values? captured with
      | some vs => put (.literal (.function name vs) p)
      | none => return .closure name captured p
    | e => return e

/-- A block in the place of an expression. -/
def onlyBlock (limits : Limits) : (fuel : Nat) → List Stmt → Position → Pass Expr
  | 0, body, p => return .block body p
  | fuel + 1, body, p => do
    match ← statements limits fuel .value body with
    | [.expr e] => if e.isCall then return .block [.expr e] p else put e
    | body => return .block body p

/-- A chain. -/
def chain (limits : Limits) : (fuel : Nat) → (linked : Bool) → Expr → List Link → Pass Expr
  | 0, _, root, links => return .chain root links
  | fuel + 1, linked, root, links => do
    if linked then
      return .chain (← expr limits fuel false root) (← Simplify.links limits fuel links)
    else if isPlace root then return .chain root (← Simplify.links limits fuel links)
    else
      match links with
      | [link] =>
        match reach? root link with
        | some e => put e
        | none => return .chain (← expr limits fuel false root) (← Simplify.links limits fuel links)
      | links => return .chain (← expr limits fuel false root) (← Simplify.links limits fuel links)

/-- The links of a chain. -/
def links (limits : Limits) : (fuel : Nat) → List Link → Pass (List Link)
  | 0, all => return all
  | _ + 1, [] => return []
  | fuel + 1, link :: rest => do
    let link ← match link with
      | .property name safe mark p => pure (Link.property name safe mark p)
      | .method name args safe mark p => do
        pure (Link.method name (← args.mapM (expr limits fuel false)) safe mark p)
      | .index place safe mark => do
        pure (Link.index (← expr limits fuel rest.isEmpty place) safe mark)
    return link :: (← Simplify.links limits fuel rest)

/-- A statement in a block of this use. -/
def statement (limits : Limits) : (fuel : Nat) → Use → Stmt → Pass Stmt
  | 0, _, s => return s
  | fuel + 1, use, s => do
    let body (b : List Stmt) : Pass (List Stmt) := statements limits fuel use.inner b
    let effects (b : List Stmt) : Pass (List Stmt) := statements limits fuel .effect b
    /- A block that has taken the place of the statement. -/
    let become (b : List Stmt) (p : Position) : Pass Stmt :=
      if b.isEmpty then put (.nothing p) else put (.block b p)
    match s with
    | .assign target op value mark =>
      match intoItself? s with
      | some s => put s
      | none =>
        let target ← match target with
          | .chain root links => expr limits fuel false (.chain root links)
          | target => pure target
        return .assign target op (← expr limits fuel false value) mark
    | .branch condition yes no bodyPos otherPos p =>
      if yes.isEmpty && no.isEmpty then
        let e ← expr limits fuel false condition
        if use == .effect then put (.expr e)
        else put (.block [.expr e, .nothing condition.start] condition.start)
      else
        match condition with
        | .literal (.bool false) q =>
          if no.isEmpty then put (.nothing q) else become (← body no) otherPos
        | .literal (.bool true) _ => become (← body yes) bodyPos
        | condition =>
          return .branch (← expr limits fuel false condition) (← body yes) (← body no) bodyPos otherPos p
    | .while (.literal (.bool false) q) _ _ _ => put (.nothing q)
    | .while condition b bodyPos p =>
      return .while (← expr limits fuel false condition) (← effects b) bodyPos p
    | .loop b bodyPos p => return .loop (← effects b) bodyPos p
    | .doWhile b condition goesOn p =>
      let condition ← expr limits fuel false condition
      return .doWhile (← effects b) condition goesOn p
    | .for item counter source b bodyPos p =>
      let source ← expr limits fuel false source
      return .for item counter source (← effects b) bodyPos p
    | .switch subject cases otherwise p =>
      match if subject.isConstant then subject.literal? else none with
      | some v =>
        /- An action that has taken the place of the statement. -/
        let action (e : Option Expr) : Pass Stmt :=
          match e with
          | some e => statement limits fuel .value (.expr e)
          | none => return .block [] p
        match chosenOf v cases otherwise with
        | .action e => put (← action e)
        | .conditional condition e =>
          let condition ← expr limits fuel false condition
          let no ← if otherwise.isSome then (fun s => [s]) <$> action otherwise else pure []
          put (.branch condition [.expr e] no e.position (otherwise.elim default Expr.position) p)
        | .ranges left =>
          if cases.any fun (.case values ranges _ _) => !values.isEmpty || ranges.any (!v.liesIn ·) then
            note
          let left ← left.mapM fun (.case values ranges condition action) => do
            let condition ← condition.mapM (expr limits fuel false)
            return Case.case values ranges condition (← expr limits fuel false action)
          return .switch subject left otherwise p
      | none =>
      let subject ← expr limits fuel false subject
      let cases ← cases.mapM fun (.case values ranges condition action) => do
        let condition ← condition.mapM (expr limits fuel false)
        return Case.case values ranges condition (← expr limits fuel false action)
      let otherwise ← otherwise.mapM (expr limits fuel false)
      if cases.any neverTaken then put (.switch subject (cases.filter (!neverTaken ·)) otherwise p)
      else return .switch subject cases otherwise p
    | .block b p =>
      match ← body b with
      | [] => put (.nothing p)
      | [s] => if s.isDeclaration then return .block [s] p else put s
      | b => return .block b p
    | .try b name handler bodyPos p =>
      if Stmt.arePure b then put (.block (← effects b) bodyPos)
      else return .try (← effects b) name (← effects handler) bodyPos p
    | .expr (.block b p) =>
      if b.isEmpty then put (.nothing p) else put (.block (← statements limits fuel .value b) p)
    | .expr e => return .expr (← expr limits fuel false e)
    | .break value p => return .break (← value.mapM (expr limits fuel false)) p
    | .return value p => return .return (← value.mapM (expr limits fuel false)) p
    | .throw value p => return .throw (← value.mapM (expr limits fuel false)) p
    | s => return s

/-- A statement of a block, with what is known after it. -/
def known (limits : Limits) : (fuel : Nat) → Use → Stmt → Pass Stmt
  | 0, _, s => return s
  | fuel + 1, use, s => do
    match s with
    | .declare name constant replaces topLevel value p =>
      let value ← expr limits fuel false value
      let v := if constant && value.isConstant then value.literal? else none
      modify fun k => { k with scope := (name, v) :: k.scope }
      return .declare name constant replaces topLevel value p
    | s => statement limits fuel use s

/-- One round of simplification of the statements of a block. -/
def round (limits : Limits) : (fuel : Nat) → Use → List Stmt → Pass (List Stmt)
  | 0, _, body => return body
  | fuel + 1, use, body => do
    let outside := (← get).scope
    let body ← dropped body (untilLeft body)
    let body ← body.mapM (known limits fuel use)
    let body ← dropped body (withoutIdle use body)
    let reversed ← if use == .effect then trimEffect use body.reverse else trimValue use body.reverse
    modify fun k => { k with scope := outside }
    return reversed.reverse

/-- Rounds until one changes nothing. The answer says whether any did. -/
def rounds (limits : Limits) : (fuel : Nat) → Use → (changed : Bool) → List Stmt →
    Pass (List Stmt × Bool)
  | 0, _, changed, body => return (body, changed)
  | fuel + 1, use, changed, body => do
    modify fun k => { k with changed := false }
    let body ← round limits fuel use body
    if (← get).changed then rounds limits fuel use true body else return (body, changed)

/-- The statements of a block. -/
def statements (limits : Limits) : (fuel : Nat) → Use → List Stmt → Pass (List Stmt)
  | 0, _, body => return body
  | fuel + 1, use, body => do
    let before := (← get).changed
    let flattened := flatAll body
    let joined := body.any fun
      | .block b _ => !b.any (·.isDeclaration)
      | _ => false
    let (body, changed) ← rounds limits fuel use (before || joined) flattened
    modify fun k => { k with changed }
    return body

end

/-- More than the levels and rounds of simplifying a script of this length. -/
def enoughFuel (length : Nat) : Nat := 32 * length + 256

/-- The statements of a script or a function, simplified. -/
def whole (limits : Limits) (length : Nat) (body : List Stmt) : List Stmt :=
  (statements limits (enoughFuel length) .whole body {}).1

end Simplify

/-- A program simplified, from a source of this length. Closures are left as they are. -/
def Program.simplified (p : Program) (limits : Limits) (length : Nat) : Program :=
  { p with
    body := Simplify.whole limits length p.body
    functions := p.functions.map fun f =>
      if Value.isClosureName f.name then f else { f with body := Simplify.whole limits length f.body } }

end LiveForm.Script

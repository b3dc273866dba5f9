import LiveForm.Script.Callback
import LiveForm.Script.Chain

/-!
# Running scripts

Expressions are computed to values and statements are carried out on a `Machine`. Everything is computed
from left to right, with two exceptions: in an assignment the right side comes first, and in a chain the
arguments of all links come before the value the chain starts from.

A call on a variable works on the variable itself: what the function leaves of its first argument is
written back. The same holds for every link of a chain, up to the variable it starts from. What has been
changed stays changed when the run is left by a signal (`Reached`).

Besides the limits of the script there is fuel. It bounds the nesting of the definitions below and the
rounds of loops; `Run.enoughFuel` is more than any run with limits can use up.
-/

namespace LiveForm.Script

/-- What stays the same while a script runs. -/
structure Context (σ : Type) where
  program : Program
  limits : Limits
  /-- The functions of the surroundings. -/
  extra : String → List Value → σ → Option (Except Cause Outcome × σ)

namespace Run

variable {σ : Type}

/-- The greatest nesting of a run. -/
def enoughFuel : Nat := 2 ^ 60

/-- The truth value of a condition. -/
def truth (p : Position) (v : Value) : Run σ Bool :=
  match v with
  | .bool b => return b
  | v => failAt p (.mismatch "bool" v.kind.longName)

/-- A text that a function of the language itself needs. -/
def requireText (p : Position) (v : Value) : Run σ String :=
  match v with
  | .text s => return s
  | v => failAt p (.mismatch "string" v.kind.longName)

/-! ## Variables -/

/-- A variable as expressions see it. The functions of the script come before parameters. -/
def lookUp (c : Context σ) (name : String) (own : Bool) (p : Position) : Run σ Binding := do
  let scripted := !own && c.program.functions.any (·.name == name)
  if scripted then return ⟨name, .function name [], .constant⟩
  else
    match (← get).find? name with
    | some b => return b
    | none => failAt p (.variableNotFound name)

/-- The value of a variable. -/
def valueOf (c : Context σ) (name : String) (own : Bool) (p : Position) : Run σ Value := do
  let b ← lookUp c name own p
  return (← get).current b.value

/-- A constant of the top level. -/
def topLevelValue (name : String) (p : Position) : Run σ Value := do
  match (← get).constants.lookup name with
  | some v => return v
  | none => failAt p (.variableNotFound ("global::" ++ name))

/-- What `this` is. -/
def thisValue (p : Position) : Run σ Value := do
  match (← get).this with
  | some v => return v
  | none => failAt p .thisUnbound

/-- A captured variable, as what the closure shares with the place it stands at. -/
def capture (c : Context σ) (name : String) (p : Position) : Run σ Value := do
  match (← get).capture? name with
  | some (v, m) =>
    set m
    return v
  | none =>
    if c.program.functions.any (·.name == name) then return .function name []
    else failAt p (.variableNotFound name)

/-! ## Operators -/

/-- An operator on two values. -/
def operate (c : Context σ) (op : Operator) (a b : Value) (p : Position) : Run σ Value := do
  if op.ordersFlags a b then return .bool false
  match op.direct? a b with
  | some r => sized c.limits p (← orFail p r)
  | none =>
    tick c.limits p
    if op == .equal || op == .different then reserve c.limits (Operator.comparisonDepth a b) p
    sized c.limits p (← orFail p ((op.called? a b).getD (.error (noFunction op.sign [a, b]))))

/-- An operator on one value. -/
def operateOn (c : Context σ) (op : Operator.Unary) (v : Value) (p : Position) : Run σ Value := do
  match op.apply v with
  | .error (.functionNotFound s) =>
    tick c.limits p
    failAt p (.functionNotFound s)
  | r => orFail p r

/-! ## Loops -/

/-- The values a loop walks through. Ranges are not listed; they go on from a first number while a test
holds. -/
inductive Course where
  | items (vs : List Value)
  | integers (next : Int) (step : Int) (goesOn : Int → Bool)
  | floats (next : Float) (step : Float) (goesOn : Float → Bool)

/-- The course of a loop over a value. A range with steps ends where no further step fits an integer. -/
def Course.of? : Value → Option Course
  | .array vs => some (.items vs)
  | .text s => some (.items (s.toList.map .char))
  | .chars cs => some (.items (cs.map .char))
  | .bits bs => some (.items (bs.map .bool))
  | .blob bytes => some (.items (bytes.map .byte))
  | .range first last closed =>
    some (.integers first.toInt 1 fun n => n < last.toInt || closed && n == last.toInt)
  | .steps first last step =>
    some (.integers first.toInt step.toInt fun n =>
      (Arithmetic.fit? (n + step.toInt)).isSome &&
        if 0 < step.toInt then n < last.toInt else last.toInt < n)
  | .floatSteps first last step =>
    some (.floats first step fun x => if 0.0 < step then x < last else step < 0.0 && last < x)
  | _ => none

/-- The next value and the course after it. -/
def Course.next? : Course → Option (Value × Course)
  | .items [] => none
  | .items (v :: rest) => some (v, .items rest)
  | .integers n step goesOn =>
    if goesOn n then some (.int (Int64.ofInt n), .integers (n + step) step goesOn) else none
  | .floats x step goesOn =>
    if goesOn x then some (.float x, .floats (x + step) step goesOn) else none

/-- The round of a loop that is over for a signal, or the signal if it is not the loop's. -/
def afterBody {α : Type} (goOn : α) : Except Signal Value → Run σ (α ⊕ Value)
  | .ok _ | .error .nextRound => return .inl goOn
  | .error (.leaveLoop v) => return .inr (v.getD .unit)
  | .error s => throw s

/-- A loop. -/
def loop {α : Type} (start : α) (round : α → Run σ (α ⊕ Value)) : Run σ Value := fun m =>
  rounds round enoughFuel start m

/-! ## Switches -/

/-- The actions of the arms that have a value, with their conditions. -/
def armsWith (v : Value) (cases : List Case) : List (Option Expr × Expr) :=
  cases.filterMap fun (.case values _ condition action) =>
    if values.any (·.sameLiteral v) then some (condition, action) else none

/-- The actions of the arms with a range around a value. -/
def armsAround (v : Value) (cases : List Case) : List (Option Expr × Expr) :=
  cases.flatMap fun (.case _ ranges condition action) =>
    (ranges.filter (Value.liesIn v)).map fun _ => (condition, action)

/-! ## Calls -/

/-- A function with arguments is entered: its parameters come before what else is in sight. -/
def bindParameters (f : Function) (args : List Value) : List Binding :=
  ((f.parameters.zip args).map fun (name, value) => ⟨name, value, .variable⟩).reverse

/-- What a value that is no function does when it is called. -/
def notCallable (p : Position) (v : Value) : Run σ Value :=
  failAt p (.mismatch "Fn" v.kindName)

/-- A part of a run on a value as what it has reached, with nothing changed by a signal. -/
def reaching (act : Run σ Reached) : Run σ Reached := do
  match ← outcome act with
  | .ok r => return r
  | .error s => return { result := .error s }

/-- The steps that computing the arguments of links takes by itself: none for a single link without
arguments, otherwise one for every link. -/
def hasArguments : List Link → Bool
  | [.property _ _ _ _] => false
  | [.index place _ _] => !place.isLiteral
  | [.method _ args _ _ _] => !args.isEmpty
  | _ => true

/-- The position of a link inside a chain, for the steps of its arguments. -/
def linkPosition (link : Link) : List Link → Position
  | next :: _ => next.markOf
  | [] =>
    match link with
    | .property _ _ _ p | .method _ _ _ _ p => p
    | .index place _ _ => place.position

/-- A link without arguments to be computed. -/
def plainStep : Link → Step
  | .property name safe mark p => .property name safe mark p
  | .method name _ safe _ p => .method name [] none safe p
  | .index place safe mark => .index (place.literal?.getD .unit) safe mark place.start

/-- What has been made of a variable is written back, if the variable may change. -/
def keep (b : Binding) (r : Reached) : Run σ Value := do
  match r.changed, b.access with
  | some new, .variable => modify fun m => m.write b.name new
  | _, _ => pure ()
  give r.result

/-- What has been made of `this` is written back. -/
def keepThis (r : Reached) : Run σ Value := do
  match r.changed with
  | some new => modify fun m => m.writeThis new
  | none => pure ()
  give r.result

mutual

/-- The value of an expression. -/
def eval (c : Context σ) : (fuel : Nat) → Expr → Run σ Value
  | 0, _ => throw .outOfFuel
  | fuel + 1, e => do
    tick c.limits e.position
    compute c fuel e

/-- The value of an expression that has been counted as a step. -/
def compute (c : Context σ) : (fuel : Nat) → Expr → Run σ Value
  | 0, _ => throw .outOfFuel
  | fuel + 1, e =>
    match e with
    | .literal v _ => return v
    | .variable name own p => valueOf c name own p
    | .topLevel name p => topLevelValue name p
    | .outside module args p => do
      let _ ← arguments c fuel [] args
      failAt p (.moduleNotFound module)
    | .this p => do return (← get).current (← thisValue p)
    | .template parts _ => template c fuel "" parts
    | .array items _ => return .array (← arrayItems c fuel {} [] items)
    | .map members _ => return .ofMembers (← mapMembers c fuel {} [] members)
    | .unary op operand p => do operateOn c op (← argument c fuel operand) p
    | .binary op l r p => do
      let a ← argument c fuel l
      let b ← argument c fuel r
      if op == .holding then invoke c fuel false op.sign [a, b] p
      else operate c op a b p
    | .and l r _ => do
      if ← truth l.position (← eval c fuel l) then
        return .bool (← truth r.position (← eval c fuel r))
      else return .bool false
    | .or l r _ => do
      if ← truth l.position (← eval c fuel l) then return .bool true
      else return .bool (← truth r.position (← eval c fuel r))
    | .coalesce l r _ => do
      match ← eval c fuel l with
      | .unit => eval c fuel r
      | v => return v
    | .call name args inScope p => call c fuel name args inScope p
    | .chain root links => do
      let steps ← if hasArguments links then prepare c fuel [] links else pure (links.map plainStep)
      match root with
      | .variable name own p =>
        tick c.limits p
        let b ← lookUp c name own p
        let r ← walk c fuel b.access ⟨name, p⟩ steps ((← get).current b.value) none
        keep b r
      | .this p =>
        tick c.limits p
        let this ← thisValue p
        let r ← walk c fuel (← get).thisAccess ⟨"this", p⟩ steps ((← get).current this) none
        keepThis r
      | root => do
        let start ← eval c fuel root
        give (← walk c fuel .variable {} steps start none).result
    | .block body _ => block c fuel body
    | .closure name captured p => do
      if captured.any fun e => !e.isLiteral then tick c.limits p
      tick c.limits p
      tick c.limits p
      return .function name (← captures c fuel true [] captured)
/-- The value of an argument or an operand. -/
def argument (c : Context σ) : (fuel : Nat) → Expr → Run σ Value
  | 0, _ => throw .outOfFuel
  | fuel + 1, e => do
    match e.literal? with
    | some v =>
      tick c.limits e.start
      return v
    | none => eval c fuel e

/-- The values of arguments. -/
def arguments (c : Context σ) : (fuel : Nat) → (done : List Value) → List Expr → Run σ (List Value)
  | 0, _, _ => throw .outOfFuel
  | _ + 1, done, [] => return done.reverse
  | fuel + 1, done, e :: rest => do arguments c fuel ((← argument c fuel e) :: done) rest

/-- What a function value captures. A variable that shares a cell is captured with the cell; `sharing`
makes every variable share one. -/
def captures (c : Context σ) : (fuel : Nat) → (sharing : Bool) → (done : List Value) → List Expr →
    Run σ (List Value)
  | 0, _, _, _ => throw .outOfFuel
  | _ + 1, _, done, [] => return done.reverse
  | fuel + 1, sharing, done, e :: rest => do
    let v ← match e with
      | .variable name own p => do
        tick c.limits p
        if sharing then capture c name p else pure (← lookUp c name own p).value
      | e => argument c fuel e
    captures c fuel sharing (v :: done) rest

/-- The text of a template from its parts. -/
def template (c : Context σ) : (fuel : Nat) → (done : String) → List Expr → Run σ Value
  | 0, _, _ => throw .outOfFuel
  | _ + 1, done, [] => return .text done
  | fuel + 1, done, part :: rest => do
    let v ← eval c fuel part
    match ← writtenSized c.limits ⟨some .plus, v, part.start⟩ (.text done) with
    | .text whole => template c fuel whole rest
    | _ => template c fuel done rest

/-- The items of an array, the last ones first in `done`; their sizes together are limited. -/
def arrayItems (c : Context σ) : (fuel : Nat) → Value.Size → (done : List Value) → List Expr →
    Run σ (List Value)
  | 0, _, _, _ => throw .outOfFuel
  | _ + 1, _, done, [] => return done.reverse
  | fuel + 1, size, done, e :: rest => do
    let v ← eval c fuel e
    let size := size.add v.size
    match c.limits.tooLarge? size with
    | some cause => failAt e.position cause
    | none => arrayItems c fuel size (v :: done) rest

/-- The members of a map. -/
def mapMembers (c : Context σ) : (fuel : Nat) → Value.Size → (done : List (String × Value)) →
    List (String × Expr) → Run σ (List (String × Value))
  | 0, _, _, _ => throw .outOfFuel
  | _ + 1, _, done, [] => return done.reverse
  | fuel + 1, size, done, (k, e) :: rest => do
    let v ← eval c fuel e
    let size := size.add v.size
    match c.limits.tooLarge? size with
    | some cause => failAt e.position cause
    | none => mapMembers c fuel size ((k, v) :: done) rest

/-- The links of a chain with their arguments computed. -/
def prepare (c : Context σ) : (fuel : Nat) → (done : List Step) → List Link → Run σ (List Step)
  | 0, _, _ => throw .outOfFuel
  | _ + 1, done, [] => return done.reverse
  | fuel + 1, done, link :: rest => do
    tick c.limits (linkPosition link rest)
    let step : Step ← match link with
      | .property name safe mark p => pure (.property name safe mark p)
      | .method name args safe _ p => do
        pure (.method name (← arguments c fuel [] args) (args.head?.map Expr.position) safe p)
      | .index place safe mark =>
        match place with
        | .literal v p => pure (.index v safe mark p)
        | place => do pure (.index (← eval c fuel place) safe mark place.start)
    prepare c fuel (step :: done) rest

/-- What the steps from a value lead to, and what they and the write at their end have made of it. -/
def walk (c : Context σ) : (fuel : Nat) → Access → Root → List Step → Value → Option Write →
    Run σ Reached
  | 0, _, _, _, _, _ => throw .outOfFuel
  | _ + 1, _, _, [], v, _ => return { result := .ok v }
  | fuel + 1, access, root, step :: rest, v, write => do
    if step.isSafe && v.isUnit then return { result := .ok .unit }
    else
      match step with
      | .property name _ mark p =>
        match rest, write with
        | [], some w => writeProperty c.limits access root v name mark p w
        | rest, write =>
          tick c.limits (if v.isMap then mark else p)
          let part ← orFail p (v.property name)
          let r ← reaching (walk c fuel access root rest part write)
          match r.changed, v with
          | some new, .map members =>
            if (members.lookup name).isSome then
              return { r with
                changed := some (.map (Value.insertMember name new members)), byBuiltin := false }
            else return { r with changed := none }
          | _, _ => return { r with changed := none }
      | .index place _ mark p =>
        match rest, write with
        | [], some w => writeItem c.limits access root v place mark p w
        | rest, write =>
          tick c.limits mark
          let part ← match v.item place with
            | .ok part => pure part
            | .error (.notIndexable s) => do
              tick c.limits mark
              failAt mark (.notIndexable s)
            | .error cause => failAt p cause
          let inner := if v.isDetached then .variable else access
          let r ← reaching (walk c fuel inner root rest part write)
          match r.changed with
          | some new =>
            if v.isDetached && !r.byBuiltin || v.lacks place then return { r with changed := none }
            else
              match v.setItem place new with
              | .ok whole => return { r with changed := some whole, byBuiltin := false }
              | .error cause =>
                let here := match rest with
                  | .method _ _ _ _ q :: _ => q
                  | _ => p
                failAt here cause
          | none => return r
      | .method name args argPos _ p =>
        let r ← callMethod c fuel access name v args argPos p
        match rest, r.result with
        | [], _ | _, .error _ => return r
        | rest, .ok result =>
          let after ← reaching (walk c fuel .variable root rest result none)
          return { r with result := after.result, byBuiltin := false }

/-- A call of a function by its name. A variable as the first argument is computed last, and written
back. -/
def call (c : Context σ) : (fuel : Nat) → (name : String) → List Expr → (inScope : Bool) → Position →
    Run σ Value
  | 0, _, _, _, _ => throw .outOfFuel
  | fuel + 1, name, args, inScope, p =>
    match name, args with
    | "Fn", [e] => do
      let s ← requireText e.start (← argument c fuel e)
      if isName s then return .function s [] else failAt e.start (.functionNotFound s)
    | "curry", e :: next :: rest => do
      match ← argument c fuel e with
      | .function f captured =>
        return .function f (captured ++ (← captures c fuel false [] (next :: rest)))
      | v => notCallable e.start v
    | "call", e :: rest => do
      match ← argument c fuel e with
      | .function f captured => do
        let given ← arguments c fuel [] rest
        give (← callValue c fuel f captured given none .variable p).result
      | v => notCallable e.start v
    | "is_shared", [e] => do
      match e with
      | .variable first own q =>
        tick c.limits q
        match (← lookUp c first own q).value with
        | .shared _ => return .bool true
        | _ => return .bool false
      | e =>
        let _ ← argument c fuel e
        return .bool false
    | "is_def_fn", [e, n] => do
      let s ← requireText e.start (← argument c fuel e)
      match ← argument c fuel n with
      | .int k => return .bool (0 ≤ k.toInt && (c.program.function? s k.toInt.toNat).isSome)
      | v => failAt n.start (.mismatch "i64" v.kind.longName)
    | "is_def_fn", [k, e, n] => do
      let kind ← requireText k.start (← argument c fuel k)
      let s ← requireText e.start (← argument c fuel e)
      match ← argument c fuel n with
      | .int k =>
        let kind := Function.kindOf kind
        return .bool (0 ≤ k.toInt && (c.program.ownMethod? kind s k.toInt.toNat).isSome)
      | v => failAt n.start (.mismatch "i64" v.kind.longName)
    | "is_def_var", [e] => do
      let s ← requireText e.start (← argument c fuel e)
      return .bool ((← get).find? s).isSome
    | name, args => do
      match inScope, args with
      | false, .variable first own q :: rest =>
        let others ← arguments c fuel [] rest
        tick c.limits q
        let b ← lookUp c first own q
        let v := (← get).current b.value
        if b.works then
          keep b (← invokeOn c fuel name v others p)
        else invoke c fuel false name (v :: others) p
      | false, .this q :: rest =>
        let others ← arguments c fuel [] rest
        tick c.limits q
        let this ← thisValue q
        let v := (← get).current this
        match this, (← get).thisAccess with
        | .shared _, _ | _, .constant => invoke c fuel false name (v :: others) p
        | _, .variable =>
          keepThis (← invokeOn c fuel name v others p)
      | inScope, args =>
        let values ← arguments c fuel [] args
        invoke c fuel inScope name values p

/-- A function of a name on values. -/
def invoke (c : Context σ) : (fuel : Nat) → (inScope : Bool) → (name : String) → List Value → Position →
    Run σ Value
  | 0, _, _, _, _ => throw .outOfFuel
  | fuel + 1, inScope, name, values, p => do
    match name, values with
    | "type_of", [v] => return .text v.kindName
    | name, values =>
      match c.program.function? name values.length with
      | some f => give (← callScript c fuel f values none .variable inScope p).result
      | none => return (← callBuiltin c fuel false name values p).value

/-- A function of a name that works on its first argument, unless it is the script's. -/
def invokeOn (c : Context σ) : (fuel : Nat) → (name : String) → (first : Value) → List Value → Position →
    Run σ Reached
  | 0, _, _, _, _ => throw .outOfFuel
  | fuel + 1, name, first, others, p => do
    match name, others with
    | "type_of", [] => return { result := .ok (.text first.kindName) }
    | name, others =>
      match c.program.function? name (others.length + 1) with
      | some f =>
        let r ← callScript c fuel f (first :: others) none .variable false p
        return { result := r.result }
      | none =>
        let o ← callBuiltin c fuel true name (first :: others) p
        return { result := .ok o.value, changed := o.changed, byBuiltin := true }

/-- A method call on a value, and what it leaves of the value. -/
def callMethod (c : Context σ) : (fuel : Nat) → Access → (name : String) → (target : Value) →
    List Value → (argPos : Option Position) → Position → Run σ Reached
  | 0, _, _, _, _, _, _ => throw .outOfFuel
  | fuel + 1, access, name, target, args, argPos, p =>
    match name, target, args with
    | "call", .function f captured, args => callValue c fuel f captured args none .variable p
    | "call", target, .function f captured :: args =>
      callValue c fuel f captured args (some target) access p
    | "call", _, v :: _ => do return { result := .ok (← notCallable (argPos.getD p) v) }
    | "call", target, [] => do return { result := .ok (← notCallable p target) }
    | "curry", .function f captured, args => return { result := .ok (.function f (captured ++ args)) }
    | "curry", target, _ => do return { result := .ok (← notCallable p target) }
    | "type_of", target, [] => return { result := .ok (.text target.kindName) }
    | "is_shared", _, [] => return { result := .ok (.bool false) }
    | name, target, args => do
      match target.memberFunction? name with
      | some (f, captured) => callValue c fuel f captured args (some target) access p
      | none =>
        match c.program.method? target.kindName name args.length with
        | some f => callScript c fuel f args (some target) access false p
        | none =>
          if access == .constant && Builtin.changes name target then
            failAt p (.constantReceiver name)
          let o ← callBuiltin c fuel true name (target :: args) p
          return { result := .ok o.value, changed := o.changed, byBuiltin := true }

/-- A call of a function value. -/
def callValue (c : Context σ) : (fuel : Nat) → (name : String) → (captured args : List Value) →
    (this : Option Value) → Access → Position → Run σ Reached
  | 0, _, _, _, _, _, _ => throw .outOfFuel
  | fuel + 1, name, captured, args, this, access, p => do
    let all := captured ++ args
    match c.program.function? name all.length with
    | some f => callScript c fuel f all this access false p
    | none =>
      let m ← get
      let values := this.toList ++ all.map m.current
      match this, access with
      | some target, .constant =>
        if Builtin.changes name target then failAt p (.constantReceiver name)
      | _, _ => pure ()
      let o ← callBuiltin c fuel this.isSome name values p
      return { result := .ok o.value, changed := o.changed, byBuiltin := true }

/-- A call of a function of the script, and what it leaves of `this`. A call in scope sees the variables
around it. -/
def callScript (c : Context σ) : (fuel : Nat) → Function → List Value → (this : Option Value) → Access →
    (inScope : Bool) → Position → Run σ Reached
  | 0, _, _, _, _, _, _ => throw .outOfFuel
  | fuel + 1, f, args, this, access, inScope, p =>
    if f.body.isEmpty then return { result := .ok .unit }
    else inCall do
      tick c.limits p
      let m ← get
      if c.limits.callLevels < m.level then failAt p .tooManyCalls
      let around := if inScope then m.scope else []
      set { m with scope := bindParameters f args ++ around, this, thisAccess := access }
      let r ← outcome (block c fuel f.body)
      let left := (← get).this
      modify fun n =>
        let scope := if inScope then n.scope.drop (n.scope.length - m.scope.length) else m.scope
        { n with scope, this := m.this, thisAccess := m.thisAccess }
      let result : Except Signal Value := match r with
        | .ok v | .error (.answer v) => .ok v
        | .error (.fault fault) => .error (.fault (fault.throughCall f.name p))
        | .error s => .error s
      return { result, changed := if this.isSome then left else none }

/-- A call of a function that is not the script's. If it works on its first argument, what it leaves
there must not be too large. -/
def callBuiltin (c : Context σ) : (fuel : Nat) → (byReference : Bool) → (name : String) →
    List Value → Position → Run σ Outcome
  | 0, _, _, _, _ => throw .outOfFuel
  | fuel + 1, byReference, name, args, p => inCall do
    tick c.limits p
    match name, args with
    | "exit", [] => throw (.finish .unit)
    | "exit", [v] => throw (.finish v)
    | name, args =>
      let m ← get
      let o ← match c.extra name args m.world with
        | some (r, world) => do
          set { m with world }
          orFail p r
        | none =>
          match Callback.find? (callBack c fuel name p) name args with
          | some act => act
          | none =>
            match Builtin.call name c.limits args with
            | some r => do
              match args with
              | [a, b] =>
                if Builtin.comparesItems name then
                  reserve c.limits (Operator.comparisonDepth a (.array [b])) p
              | _ => pure ()
              orFail p r
            | none => failAt p (noFunction name args)
      match args with
      | first :: _ =>
        if byReference then
          let _ ← sized c.limits p (o.changed.getD first)
      | [] => pure ()
      let _ ← sized c.limits p o.value
      return o

/-- A call of a function value by the builtin function `native`. The number of parameters decides what is
given. -/
def callBack (c : Context σ) : (fuel : Nat) → (native : String) → Position → Caller σ
  | 0, _, _ => fun _ _ _ _ => throw .outOfFuel
  | fuel + 1, native, p => fun function this args extra => do
    match function with
    | .function name captured =>
      let takes (given : List Value) : Bool :=
        (c.program.function? name (captured.length + given.length)).isSome
      let on (given : List Value) := callValue c fuel name captured given (this.map (·.1)) .variable p
      let moved : Option (List Value) := match this with
        | some (item, some place) => some (args.take place ++ item :: args.drop place)
        | _ => none
      let act : Run σ Reached :=
        if takes args then on args
        else
          match moved with
          | some given =>
            if takes given then callValue c fuel name captured given none .variable p
            else if takes (given ++ extra) then
              callValue c fuel name captured (given ++ extra) none .variable p
            else if takes (args ++ extra) then on (args ++ extra)
            else callValue c fuel name captured given none .variable p
          | none => if takes (args ++ extra) then on (args ++ extra) else on args
      let r ← uncounted (reaching act)
      match r.result with
      | .ok v => return (v, r.changed)
      | .error (.fault f) => throw (.fault (.inCall native f (some p)))
      | .error (.finish _) => throw (.fault (.inCall native (.plain .exited (some p)) (some p)))
      | .error s => throw s
    | v => failAt p (.mismatch "Fn" v.kind.longName)

/-- Statements in a block of their own. The value is that of the last one. -/
def block (c : Context σ) : (fuel : Nat) → List Stmt → Run σ Value
  | 0, _ => throw .outOfFuel
  | fuel + 1, body => inBlock (sequence c fuel .unit body)

/-- Statements one after the other. -/
def sequence (c : Context σ) : (fuel : Nat) → (last : Value) → List Stmt → Run σ Value
  | 0, _, _ => throw .outOfFuel
  | _ + 1, last, [] => return last
  | fuel + 1, _, s :: rest => do sequence c fuel (← run c fuel s) rest

/-- The rounds of a loop without a condition. -/
def endless (c : Context σ) : (fuel : Nat) → List Stmt → (bodyPos : Position) → Run σ Value
  | 0, _, _ => throw .outOfFuel
  | fuel + 1, body, bodyPos =>
    loop () fun _ => do
      if body.isEmpty then
        tick c.limits bodyPos
        return .inl ()
      else afterBody () (← outcome (block c fuel body))

/-- One statement. -/
def run (c : Context σ) : (fuel : Nat) → Stmt → Run σ Value
  | 0, _ => throw .outOfFuel
  | fuel + 1, s => do
    tick c.limits s.position
    match s with
    | .nothing _ => return .unit
    | .expr e => if e.isCall then compute c fuel e else eval c fuel e
    | .assign target op value mark =>
      let v ← eval c fuel value
      assign c fuel target ⟨op, v, mark⟩
      return .unit
    | .block body _ => block c fuel body
    | .branch condition body otherwise _ _ _ =>
      if ← truth condition.position (← eval c fuel condition) then block c fuel body
      else block c fuel otherwise
    | .while condition body bodyPos _ =>
      if condition.isFlag true then endless c fuel body bodyPos
      else
        loop () fun _ => do
          if ← truth condition.position (← eval c fuel condition) then
            if body.isEmpty then return .inl ()
            else afterBody () (← outcome (block c fuel body))
          else return .inr .unit
    | .loop body bodyPos _ => endless c fuel body bodyPos
    | .doWhile body condition goesOn _ =>
      loop () fun _ => do
        match ← outcome (block c fuel body) with
        | .error .nextRound => return .inl ()
        | r =>
          match ← afterBody () r with
          | .inr v => return .inr v
          | .inl () =>
            let holds ← truth condition.position (← eval c fuel condition)
            return if holds == goesOn then .inl () else .inr .unit
    | .for item counter source body bodyPos _ =>
      let subject ← eval c fuel source
      match Course.of? subject with
      | none => failAt source.start .notIterable
      | some course =>
        inBlock do
          match counter with
          | some name => modify fun m => m.declare { name, value := .int 0 }
          | none => pure ()
          modify fun m => m.declare { name := item, value := .unit }
          loop (course, 0) fun (course, n) => do
            match course.next? with
            | none => return .inr .unit
            | some (v, rest) =>
              match counter with
              | some name => modify fun m => m.write name (.ofNat n)
              | none => pure ()
              modify fun m => m.write item v
              tick c.limits bodyPos
              afterBody (rest, n + 1) (← outcome (block c fuel body))
    | .switch subject cases otherwise _ =>
      let v ← eval c fuel subject
      let action ← match ← arm c fuel (armsWith v cases) with
        | some action => pure (some action)
        | none => arm c fuel (armsAround v cases)
      match action.or otherwise with
      | some action => eval c fuel action
      | none => return .unit
    | .break value _ =>
      match value with
      | some e => throw (.leaveLoop (some (← eval c fuel e)))
      | none => throw (.leaveLoop none)
    | .continue _ => throw .nextRound
    | .return value _ =>
      match value with
      | some e => throw (.answer (← eval c fuel e))
      | none => throw (.answer .unit)
    | .throw value p =>
      match value with
      | some e => failAt p (.thrown (← eval c fuel e))
      | none => failAt p (.thrown .unit)
    | .try body name handler _ _ =>
      match ← outcome (block c fuel body) with
      | .ok v => return v
      | .error (.fault f) =>
        if f.isFinal then throw (.fault f)
        else
          let handled ← outcome (inBlock do
            match name with
            | some n => modify fun m => m.declare { name := n, value := f.caught }
            | none => pure ()
            block c fuel handler)
          match handled with
          | .ok _ => return .unit
          | .error (.fault (.plain (.thrown .unit) (some p))) => throw (.fault (f.moved p))
          | .error s => throw s
      | .error s => throw s
    | .declare name constant replaces topLevel value _ =>
      let v ← eval c fuel value
      let b : Binding :=
        { name, value := v, access := if constant then .constant else .variable }
      modify fun m =>
        let m := if replaces then m.redeclare b else m.declare b
        if constant && topLevel && !c.program.functions.isEmpty then
          { m with constants := (name, v) :: m.constants }
        else m
      return .unit
    | .expose name p => do
      match (← get).find? name with
      | some _ => return .unit
      | none => failAt p (.variableNotFound name)

/-- What the first arm does whose condition holds. -/
def arm (c : Context σ) : (fuel : Nat) → List (Option Expr × Expr) → Run σ (Option Expr)
  | 0, _ => throw .outOfFuel
  | _ + 1, [] => return none
  | fuel + 1, (condition, action) :: rest => do
    match condition with
    | none => return some action
    | some e =>
      let holds ← match e with
        | .literal (.bool b) _ => pure b
        | e => do truth e.position (← eval c fuel e)
      if holds then return some action else arm c fuel rest

/-- A write to a variable, to `this`, or through a chain. -/
def assign (c : Context σ) : (fuel : Nat) → Expr → Write → Run σ Unit
  | 0, _, _ => throw .outOfFuel
  | fuel + 1, target, w =>
    match target with
    | .variable name own p => do
      tick c.limits p
      let b ← lookUp c name own p
      if b.access == .constant then failAt p (.constantModified name)
      let new ← writtenSized c.limits w ((← get).current b.value)
      modify fun m => m.write name new
    | .topLevel name p => do
      tick c.limits p
      let _ ← topLevelValue name p
      failAt p (.constantModified name)
    | .this p => do
      tick c.limits p
      let this ← thisValue p
      if (← get).thisAccess == .constant then failAt p (.constantModified "this")
      let new ← writtenSized c.limits w ((← get).current this)
      modify fun m => m.writeThis new
    | .chain root links => do
      let steps ← if hasArguments links then prepare c fuel [] links
        else pure (links.map plainStep)
      match root with
      | .variable name own p =>
        tick c.limits p
        let b ← lookUp c name own p
        let r ← walk c fuel b.access ⟨name, p⟩ steps ((← get).current b.value) (some w)
        let _ ← keep { b with access := .variable } r
      | .this p =>
        tick c.limits p
        let this ← thisValue p
        let r ← walk c fuel (← get).thisAccess ⟨"this", p⟩ steps ((← get).current this) (some w)
        let _ ← keepThis r
      | root => failAt root.position (.constantModified "")
    | target => failAt target.position (.constantModified "")

end

end Run

end LiveForm.Script

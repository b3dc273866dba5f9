import LiveForm.Script.Parser.Check

/-!
# From tokens to a syntax tree

A recursive descent over the tokens that stops at the first one that does not fit. Variables have to be
known: a name must be a variable of the script, a parameter of the fragment, or one of its functions. In
a closure the names of surrounding variables are collected, and the closure captures them; whether they
exist is asked where the closure stands.

The nesting of a script is bounded (`Setting.deeper`): statements, blocks, expressions, parentheses,
literals with parts, calls and the links of chains each go deeper by a level, some by two. Besides, every
function carries fuel, of which a multiple of the number of tokens is always enough: between two tokens only
a bounded number of calls happens.
-/

namespace LiveForm.Script

namespace Parser

/-! ## The grammar -/

/-- The statements of a body. -/
def bodyOf : Stmt → List Stmt
  | .block body _ => body
  | .nothing _ => []
  | s => [s]

/-- A statement in the place of an expression. -/
def inBlock (s : Stmt) : Expr := .block (bodyOf s) s.position

/-- The values and ranges of a switch case. A range of one number is that number, and an empty one is
nothing. -/
def caseParts (rangesBefore : Bool) (exprs : List Expr) :
    Parse (List Value × List (Int64 × Int64 × Bool)) :=
  exprs.foldlM (fun (values, ranges) e => do
    match e.literal? with
    | none => fail (.expressionExpected "a literal") e.start
    | some (.range a b closed) =>
      let size := b.toInt - a.toInt + (if closed then 1 else 0)
      if size = 1 then return (values ++ [.int a], ranges)
      else if size ≤ 0 then return (values, ranges)
      else return (values, ranges ++ [(a, b, closed)])
    | some (.int n) =>
      if rangesBefore || !ranges.isEmpty then fail .numberAfterRange e.start
      return (values ++ [.int n], ranges)
    | some v => return (values ++ [v], ranges)) ([], [])

/-- The comma after what a switch case does, unless the switch ends or nothing has to follow. -/
def endOfCase (isClosed : Bool) : Parse Unit := do
  let t ← peek
  match t.token with
  | .symbol "," =>
    let _ ← next
  | .symbol "\x7d" => return ()
  | .finish => fail (.missing ")" closeSwitch) t.position
  | .fault f => fail (.token f) t.position
  | _ => if !isClosed then fail (.missing "," "to separate the items in this switch block") t.position

/-- The kind of values that a function is a method of, written before its name with a point, and the token of
the name. -/
def methodKind : Parse (Option String × Located) := do
  let t ← next
  let following ← peek
  let isPoint := isSymbol "." following.token
  match t.token with
  | .text kind =>
    if !isPoint then fail (.missing "." "after the type name for 'this'") following.position
    let _ ← next
    return (some (Function.kindOf kind), ← next)
  | .name kind =>
    if isPoint then
      let _ ← next
      return (some (Function.kindOf kind), ← next)
    else return (none, t)
  | _ => return (none, t)

mutual

/-- An expression. -/
def expr : (fuel : Nat) → Setting → Parse Expr
  | 0, s => fail .incomplete s.pos
  | fuel + 1, s => do
    let s ← s.deeperAt (← peek).position
    let left ← unary fuel s
    operations fuel { s with pos := left.position } 1 left

/-- An expression that no binary operator joins with another. -/
def unary : (fuel : Nat) → Setting → Parse Expr
  | 0, s => fail .incomplete s.pos
  | fuel + 1, s => do
    let t ← peek
    let s := { s with pos := t.position }
    match t.token with
    | .symbol "-" =>
      let _ ← next
      return negate (← unary fuel (← s.deeper)) t.position
    | .symbol "+" =>
      let _ ← next
      return affirm (← unary fuel (← s.deeper)) t.position
    | .symbol "!" =>
      let _ ← next
      return .unary .not (← unary fuel (← s.deeper)) t.position
    | .finish => fail .incomplete t.position
    | _ => primary fuel s

/-- The operations to the right of an expression that bind tighter than `outer`. Every operator goes a
level deeper, and so does an operation on the right of another one. -/
def operations : (fuel : Nat) → Setting → (outer : Nat) → Expr → Parse Expr
  | 0, s, _, _ => fail .incomplete s.pos
  | fuel + 1, s, outer, left => do
    let t ← peek
    let strength ← bindingOf s t
    let sign := spelling t.token
    if strength < outer || strength == outer && !Operator.bindsRight sign then return left
    else
      let _ ← next
      let right ← unary fuel s
      let following ← peek
      let nextStrength ← bindingOf s following
      let right ←
        if strength == nextStrength && Operator.bindsRight sign || strength < nextStrength then
          operations fuel { (← s.deeper) with pos := right.position } strength right
        else pure right
      let s ← s.deeper
      let joined ← operation sign left right t.position
      operations fuel { s with pos := t.position } outer joined

/-- An expression without operators, with what follows it. -/
def primary : (fuel : Nat) → Setting → Parse Expr
  | 0, s => fail .incomplete s.pos
  | fuel + 1, s => do
    let t ← peek
    let p := t.position
    let s := { s with pos := p }
    let literal (v : Value) : Parse Expr := do
      let _ ← next
      return .literal v p
    let root ← match t.token with
      | .int n => literal (.int n)
      | .float x => literal (.float x)
      | .char c => literal (.char c)
      | .text v => literal (.text v)
      | .piece _ => template fuel (← s.deeper)
      | .name name => do
        let _ ← next
        let following ← peek
        match following.token with
        | .symbol "(" | .symbol "()" => call fuel s name false
        | .symbol "!" => bangCall fuel s name
        | .symbol "::" => qualified fuel s [name]
        | _ => nameExpr s name p
      | .reserved word => do
        let _ ← next
        let following ← peek
        if Token.callable.contains word &&
            (isSymbol "(" following.token || isSymbol "()" following.token) then
          call fuel s word false
        else if word == "this" then
          if s.inFunction then pure (.this p) else fail .misplacedThis p
        else fail (reservedRefusal word) p
      | .fault f => fail (.token f) p
      | .finish => fail .incomplete p
      | .symbol sign =>
        match sign with
        | "true" => literal (.bool true)
        | "false" => literal (.bool false)
        | "()" => literal .unit
        | "(" => grouped fuel (← s.deeper)
        | "[" => array fuel (← s.deeper)
        | "#\x7b" => map fuel (← s.deeper)
        | "|" | "||" => closure fuel s
        | "\x7b" => inBlock <$> block fuel (← s.deeper)
        | "if" => inBlock <$> branch fuel (← s.deeper)
        | "switch" => inBlock <$> switch fuel (← s.deeper)
        | "while" | "loop" => inBlock <$> whileLoop fuel (← s.deeper)
        | "do" => inBlock <$> doLoop fuel (← s.deeper)
        | "for" => inBlock <$> forLoop fuel (← s.deeper)
        | _ => fail (.token (.unexpected sign)) p
    match ← links fuel s root with
    | [] => return root
    | all => return .chain root all

/-- The properties, indices and method calls after an expression; `root` is that expression if they follow
it at once. Those after a property or a method are a level deeper than it. -/
def links : (fuel : Nat) → Setting → (root : Expr) → Parse (List Link)
  | 0, s, _ => fail .incomplete s.pos
  | fuel + 1, s, root => do
    let t ← peek
    let mark := t.position
    match t.token with
    | .symbol "." | .symbol "?." =>
      let _ ← next
      let s ← s.deeperAt mark
      let link ← member fuel s (isSymbol "?." t.token) mark
      return link :: (← links fuel s (.literal .unit mark))
    | .symbol "[" | .symbol "?[" =>
      let _ ← next
      let indices ← indexChain fuel (← s.deeperAt mark) (some root) (isSymbol "?[" t.token) mark
      return indices ++ (← links fuel s (.literal .unit mark))
    | _ => return []

/-- An index whose bracket has been read, and those that follow it at once, each a level deeper. -/
def indexChain : (fuel : Nat) → Setting → (root : Option Expr) → (safe : Bool) → (mark : Position) →
    Parse (List Link)
  | 0, s, _, _, _ => fail .incomplete s.pos
  | fuel + 1, s, root, safe, mark => do
    let place ← expr fuel (← s.deeper)
    match root.bind fun indexed => badIndex? indexed place with
    | some (reason, p) => fail (.badIndex reason) p
    | none => pure ()
    let closing ← peek
    match closing.token with
    | .symbol "]" =>
      let _ ← next
      let link : Link := .index place safe mark
      let t ← peek
      match t.token with
      | .symbol "[" | .symbol "?[" =>
        let _ ← next
        let more ← indexChain fuel (← s.deeperAt t.position) none (isSymbol "?[" t.token) t.position
        return link :: more
      | _ => return [link]
    | .fault f => fail (.token f) closing.position
    | _ => fail (.missing "]" "for a matching [ in this index expression") closing.position

/-- A property or a method call after its dot. -/
def member : (fuel : Nat) → Setting → (safe : Bool) → (mark : Position) → Parse Link
  | 0, s, _, _ => fail .incomplete s.pos
  | fuel + 1, s, safe, mark => do
    let t ← peek
    let p := t.position
    let s := { s with pos := p }
    let callComes : Parse Bool := do return (← comes "(") || (← comes "()")
    match t.token with
    | .name name =>
      let _ ← next
      if ← callComes then
        return .method name (← arguments fuel s name) safe mark p
      else if ← comes "!" then
        let _ ← bangCall fuel s name
        fail .captureInMethod p
      else return .property name safe mark p
    | .reserved word =>
      if !Token.callableAsMethod.contains word then fail (reservedRefusal word) p
      let _ ← next
      if ← callComes then
        return .method word (← arguments fuel s word) safe mark p
      else fail (reservedRefusal word) p
    | _ => fail .propertyExpected p

/-- A call of a function whose name has been read. -/
def call : (fuel : Nat) → Setting → (name : String) → (inScope : Bool) → Parse Expr
  | 0, s, _, _ => fail .incomplete s.pos
  | fuel + 1, s, name, inScope => do
    let args ← arguments fuel s name
    return .call name args inScope s.pos

/-- A call among the variables of the place it stands at, whose exclamation mark comes next. -/
def bangCall : (fuel : Nat) → Setting → (name : String) → Parse Expr
  | 0, s, _ => fail .incomplete s.pos
  | fuel + 1, s, name => do
    let _ ← next
    let t ← peek
    if isSymbol "(" t.token || isSymbol "()" t.token then call fuel s name true
    else fail (.missing "(" "to start arguments list of function call") t.position

/-- A name inside a module, of whose path the last part has been read last. The only module there is holds
the constants of the top level. -/
def qualified : (fuel : Nat) → Setting → (path : List String) → Parse Expr
  | 0, s, _ => fail .incomplete s.pos
  | fuel + 1, s, path => do
    let _ ← next
    let t ← next
    let root := path.getLastD ""
    let known : Parse Unit := if root == "global" then pure () else fail (.unknownModule root) s.pos
    match t.token with
    | .name name =>
      let following ← peek
      match following.token with
      | .symbol "::" => qualified fuel s (name :: path)
      | .symbol "(" | .symbol "()" =>
        let args ← arguments fuel { s with pos := t.position } name
        known
        return .outside ("::".intercalate path.reverse) args s.pos
      | _ =>
        known
        if path.length == 1 then return .topLevel name s.pos
        else return .outside ("::".intercalate path.reverse) [] s.pos
    | .reserved word => fail (reservedRefusal word) t.position
    | .fault f => fail (.token f) t.position
    | _ => fail .variableExpected t.position

/-- The arguments of a call, with their parentheses. -/
def arguments : (fuel : Nat) → Setting → (name : String) → Parse (List Expr)
  | 0, s, _ => fail .incomplete s.pos
  | fuel + 1, s, name => do
    let opening ← next
    let s ← s.deeper
    if isSymbol "()" opening.token then return []
    else
      let purpose := "to close the arguments list of this function call '" ++ name ++ "'"
      let t ← peek
      match t.token with
      | .finish => fail (.missing ")" purpose) t.position
      | .fault f => fail (.token f) t.position
      | .symbol ")" =>
        let _ ← next
        return []
      | _ => argumentList fuel s name []

/-- The arguments up to the closing parenthesis. -/
def argumentList : (fuel : Nat) → Setting → (name : String) → (read : List Expr) →
    Parse (List Expr)
  | 0, s, _, _ => fail .incomplete s.pos
  | fuel + 1, s, name, read => do
    let read ← if ← comes ")" then pure read else do pure ((← expr fuel s) :: read)
    let t ← peek
    match t.token with
    | .symbol ")" =>
      let _ ← next
      return read.reverse
    | .symbol "," =>
      let _ ← next
      argumentList fuel s name read
    | .finish =>
      fail (.missing ")" ("to close the arguments list of this function call '" ++ name ++ "'"))
        t.position
    | .fault f => fail (.token f) t.position
    | _ =>
      fail (.missing "," ("to separate the arguments to function call '" ++ name ++ "'")) t.position

/-- An expression in parentheses. -/
def grouped : (fuel : Nat) → Setting → Parse Expr
  | 0, s => fail .incomplete s.pos
  | fuel + 1, s => do
    let opening ← next
    if (← accept ")").1 then return .literal .unit opening.position
    else
      let e ← expr fuel s
      let _ ← expect ")" "for a matching ( in this expression"
      return e

/-- A template text, of which a piece comes next. -/
def template : (fuel : Nat) → Setting → Parse Expr
  | 0, s => fail .incomplete s.pos
  | fuel + 1, s => do
    match ← templateParts fuel s [] with
    | [] => return .literal (.text "") s.pos
    | parts => return .template parts s.pos

/-- The pieces and blocks of a template text. -/
def templateParts : (fuel : Nat) → Setting → (read : List Expr) → Parse (List Expr)
  | 0, s, _ => fail .incomplete s.pos
  | fuel + 1, s, read => do
    let t ← next
    let withText (v : String) : List Expr :=
      if v.isEmpty then read else .literal (.text v) t.position :: read
    match t.token with
    | .piece v =>
      let b ← block fuel s
      templateParts fuel s (inBlock b :: withText v)
    | .text v => return (withText v).reverse
    | .fault f => fail (.token f) t.position
    | _ => fail (.token .openText) t.position

/-- An array. -/
def array : (fuel : Nat) → Setting → Parse Expr
  | 0, s => fail .incomplete s.pos
  | fuel + 1, s => do
    let opening ← next
    return .array (← arrayItems fuel (← s.deeper) []) opening.position

def arrayItems : (fuel : Nat) → Setting → (read : List Expr) → Parse (List Expr)
  | 0, s, _ => fail .incomplete s.pos
  | fuel + 1, s, read => do
    let t ← peek
    if s.limits.arraySize != 0 && s.limits.arraySize ≤ read.length then
      fail (.literalTooLarge "Size of array literal" s.limits.arraySize) t.position
    match t.token with
    | .symbol "]" =>
      let _ ← next
      return read.reverse
    | .finish => fail (.missing "]" closeArray) t.position
    | _ =>
      let item ← expr fuel s
      let t ← peek
      match t.token with
      | .symbol "," =>
        let _ ← next
        arrayItems fuel s (item :: read)
      | .symbol "]" => arrayItems fuel s (item :: read)
      | .finish => fail (.missing "]" closeArray) t.position
      | .fault f => fail (.token f) t.position
      | _ => fail (.missing "," "to separate the items of this array literal") t.position

/-- A map. -/
def map : (fuel : Nat) → Setting → Parse Expr
  | 0, s => fail .incomplete s.pos
  | fuel + 1, s => do
    let opening ← next
    return .map (← mapMembers fuel (← s.deeper) []) opening.position

def mapMembers : (fuel : Nat) → Setting → (read : List (String × Expr)) →
    Parse (List (String × Expr))
  | 0, s, _ => fail .incomplete s.pos
  | fuel + 1, s, read => do
    let t ← next
    let p := t.position
    let key (name : String) : Parse (Option String) :=
      if read.any (·.1 == name) then fail (.duplicateProperty name) p else return some name
    let key ← match t.token with
      | .symbol "\x7d" => pure none
      | .finish => fail (.missing "\x7d" closeMap) p
      | .name name => if s.quotedKeys then fail .propertyExpected p else key name
      | .text name => key name
      | .piece _ => fail .propertyExpected p
      | .reserved word =>
        if isName word then fail (.reservedWord word) p
        else if read.isEmpty then fail (.missing "\x7d" closeMap) p
        else fail .propertyExpected p
      | .fault f => fail (.token f) p
      | _ => if read.isEmpty then fail (.missing "\x7d" closeMap) p else fail .propertyExpected p
    match key with
    | none => return read.reverse
    | some name =>
      let _ ← expect ":" ("to follow the property '" ++ name ++ "' in this object map literal")
      if s.limits.mapSize != 0 && s.limits.mapSize ≤ read.length then
        fail (.literalTooLarge "Number of properties in object map literal" s.limits.mapSize)
          (← peek).position
      let value ← expr fuel s
      let t ← peek
      match t.token with
      | .symbol "," =>
        let _ ← next
        mapMembers fuel s ((name, value) :: read)
      | .symbol "\x7d" => mapMembers fuel s ((name, value) :: read)
      | .name _ =>
        fail (.missing "," "to separate the items of this object map literal") t.position
      | .fault f => fail (.token f) t.position
      | _ => fail (.missing "\x7d" closeMap) t.position

/-- A closure. Its body is read as a script of its own; the names it leaves open are looked up where it
stands. -/
def closure : (fuel : Nat) → Setting → Parse Expr
  | 0, s => fail .incomplete s.pos
  | fuel + 1, s => do
    let opening ← next
    let outer ← get
    set { outer with locals := [], outside := 0, externals := [] }
    let parameters ←
      if isSymbol "||" opening.token then pure []
      else if (← accept "|").1 then pure []
      else closureParameters fuel []
    for name in parameters do introduce name false
    let inner : Setting :=
      { s with
        global := false, inLoop := false, inFunction := true, inClosure := true, inCase := false }
    let body ← stmt fuel (← inner.deeper)
    let read ← get
    let name := Value.closureMark ++ toString read.closures
    set { read with
      locals := outer.locals, outside := outer.outside, externals := outer.externals
      closures := read.closures + 1 }
    let captured ← read.externals.mapM fun (external, p) => do
      match ← meaning external p with
      | .unknown =>
        if !s.inClosure && !s.parameters.contains external then fail (.undefinedVariable external) p
        return Expr.variable external false p
      | .variable _ => return Expr.variable external true p
      | .function => return Expr.variable external false p
    let function : Function :=
      { name, parameters := read.externals.map (·.1) ++ parameters, body := bodyOf body }
    modify fun c => { c with functions := c.functions ++ [function] }
    if captured.isEmpty then return .literal (.function name []) s.pos
    else return .closure name captured s.pos

/-- The parameters of a closure up to the closing bar. -/
def closureParameters : (fuel : Nat) → (read : List String) → Parse (List String)
  | 0, _ => fail .incomplete default
  | fuel + 1, read => do
    let t ← next
    match t.token with
    | .symbol "|" => return read.reverse
    | .name name =>
      if read.contains name then fail (.duplicateParameter name "") t.position
      let t ← next
      match t.token with
      | .symbol "|" => return (name :: read).reverse
      | .symbol "," => closureParameters fuel (name :: read)
      | .fault f => fail (.token f) t.position
      | _ => fail (.missing "," "to separate the parameters of anonymous function") t.position
    | .fault f => fail (.token f) t.position
    | _ =>
      fail (.missing "|" "to close the parameters list of anonymous function or closure") t.position

/-- A statement. -/
def stmt : (fuel : Nat) → Setting → Parse Stmt
  | 0, s => fail .incomplete s.pos
  | fuel + 1, s => do
    let t ← peek
    let p := t.position
    let s := { s with pos := p }
    match t.token with
    | .finish => return .nothing p
    | .symbol sign =>
      match sign with
      | ";" =>
        let _ ← next
        return .nothing p
      | "\x7b" => block fuel (← s.deeper)
      | "fn" | "private" =>
        if s.global then function fuel s else fail .misplacedFunction p
      | "if" => branch fuel (← s.deeper)
      | "switch" => switch fuel (← s.deeper)
      | "while" | "loop" => whileLoop fuel (← s.deeper)
      | "do" => doLoop fuel (← s.deeper)
      | "for" => forLoop fuel (← s.deeper)
      | "continue" =>
        if !s.inLoop then fail .misplacedBreak p
        let _ ← next
        return .continue p
      | "break" =>
        if !s.inLoop then fail .misplacedBreak p
        let _ ← next
        return .break (← optionalValue fuel s true) p
      | "return" =>
        let _ ← next
        return .return (← optionalValue fuel s false) p
      | "throw" =>
        let _ ← next
        return .throw (← optionalValue fuel s false) p
      | "try" => tryStmt fuel (← s.deeper)
      | "let" => declaration fuel (← s.deeper) false
      | "const" => declaration fuel (← s.deeper) true
      | "export" => if s.global then exposure fuel s else fail .misplacedExport p
      | _ => exprStmt fuel (← s.deeper)
    | _ => exprStmt fuel (← s.deeper)

/-- The value after `break`, `return` or `throw`, if there is one. -/
def optionalValue : (fuel : Nat) → Setting → (afterBreak : Bool) → Parse (Option Expr)
  | 0, s, _ => fail .incomplete s.pos
  | fuel + 1, s, afterBreak => do
    let t ← peek
    match t.token with
    | .finish => return none
    | .symbol ";" => return none
    | .symbol "\x7d" =>
      if afterBreak || !s.global then return none else some <$> (do expr fuel (← s.deeper))
    | _ => if startsNoValue t then return none else some <$> (do expr fuel (← s.deeper))

/-- An expression as a statement, or an assignment. -/
def exprStmt : (fuel : Nat) → Setting → Parse Stmt
  | 0, s => fail .incomplete s.pos
  | fuel + 1, s => do
    let e ← expr fuel s
    let t ← peek
    match t.token with
    | .symbol "=" =>
      let _ ← next
      assignment e none (← expr fuel { s with pos := t.position }) t.position
    | .symbol sign =>
      match (Token.compoundAssignments.lookup sign).bind Operator.ofSign? with
      | some op =>
        let _ ← next
        assignment e (some op) (← expr fuel { s with pos := t.position }) t.position
      | none => return .expr e
    | _ => return .expr e

/-- A block in braces. -/
def block : (fuel : Nat) → Setting → Parse Stmt
  | 0, s => fail .incomplete s.pos
  | fuel + 1, s => do
    let opening ← expect "\x7b" "to start a statement block"
    let before ← get
    let count := before.locals.length
    modify fun c => { c with outside := count }
    let s ← { s with pos := opening, global := false }.deeper
    let body ← blockStmts fuel s []
    forget count
    modify fun c => { c with outside := before.outside }
    return .block body opening

/-- The statements of a block up to its closing brace. -/
def blockStmts : (fuel : Nat) → Setting → (read : List Stmt) → Parse (List Stmt)
  | 0, s, _ => fail .incomplete s.pos
  | fuel + 1, s, read => do
    let t ← peek
    match t.token with
    | .symbol "\x7d" =>
      let _ ← next
      return read.reverse
    | .finish => fail (.missing "\x7d" "to terminate this block") t.position
    | _ =>
      let st ← stmt fuel s
      if st.isNothing then blockStmts fuel s read
      else
        let t ← peek
        match t.token with
        | .symbol "\x7d" => blockStmts fuel s (st :: read)
        | .symbol ";" =>
          let _ ← next
          blockStmts fuel s (st :: read)
        | _ =>
          if st.isClosed then blockStmts fuel s (st :: read)
          else
            match t.token with
            | .fault f => fail (.token f) t.position
            | _ => fail (.missing ";" "to terminate this statement") t.position

/-- A condition. -/
def condition : (fuel : Nat) → Setting → Parse Expr
  | 0, s => fail .incomplete s.pos
  | fuel + 1, s => do
    refuseBlock
    let e ← requireFlag (← expr fuel s)
    refuseAssignment
    return e

def branch : (fuel : Nat) → Setting → Parse Stmt
  | 0, s => fail .incomplete s.pos
  | fuel + 1, s => do
    let s ← s.deeper
    let p := (← next).position
    let s := { s with pos := p }
    let guard ← condition fuel s
    let body ← block fuel s
    let otherwise ←
      if (← accept "else").1 then
        if ← comes "if" then branch fuel s else block fuel s
      else pure (.nothing p)
    return .branch guard (bodyOf body) (bodyOf otherwise) body.position otherwise.position p

def whileLoop : (fuel : Nat) → Setting → Parse Stmt
  | 0, s => fail .incomplete s.pos
  | fuel + 1, s => do
    let s ← s.deeper
    let t ← next
    let s := { s with pos := t.position }
    if isSymbol "while" t.token then
      let guard ← condition fuel s
      let body ← block fuel { s with inLoop := true }
      return .while guard (bodyOf body) body.position t.position
    else
      let body ← block fuel { s with inLoop := true }
      return .loop (bodyOf body) body.position t.position

def doLoop : (fuel : Nat) → Setting → Parse Stmt
  | 0, s => fail .incomplete s.pos
  | fuel + 1, s => do
    let s ← s.deeper
    let p := (← next).position
    let s := { s with pos := p }
    let body ← block fuel { s with inLoop := true }
    let t ← next
    let goesOn ←
      if isSymbol "while" t.token then pure true
      else if isSymbol "until" t.token then pure false
      else fail (.missing "while" "for the do statement") t.position
    let guard ← condition fuel s
    return .doWhile (bodyOf body) guard goesOn p

def forLoop : (fuel : Nat) → Setting → Parse Stmt
  | 0, s => fail .incomplete s.pos
  | fuel + 1, s => do
    let s ← s.deeper
    let p := (← next).position
    let s := { s with pos := p }
    let (item, counter) ←
      if (← accept "(").1 then
        let (item, _) ← variableName
        let _ ← expectPlainly "," "after the iteration variable name"
        let (counter, q) ← variableName
        if counter == item then fail (.duplicateVariable counter) q
        let _ ← expectPlainly ")" "to close the iteration variable"
        pure (item, some counter)
      else
        let (item, _) ← variableName
        pure (item, none)
    let _ ← expect "in" "after the iteration variable"
    refuseBlock
    let source ← requireIterable (← expr fuel s)
    let count := (← get).locals.length
    match counter with
    | some name => introduce name false
    | none => pure ()
    introduce item false
    let body ← block fuel { s with inLoop := true }
    forget count
    return .for item counter source (bodyOf body) body.position p

def switch : (fuel : Nat) → Setting → Parse Stmt
  | 0, s => fail .incomplete s.pos
  | fuel + 1, s => do
    let s ← s.deeper
    let p := (← next).position
    let s := { s with pos := p }
    let subject ← expr fuel s
    let _ ← expect "\x7b" "to start a switch block"
    let (cases, otherwise) ← switchCases fuel s [] none
    return .switch subject cases otherwise p

/-- The cases of a switch up to its closing brace. `otherwise` is the default case with its position,
after which no other may come. -/
def switchCases : (fuel : Nat) → Setting → (read : List Case) →
    (otherwise : Option (Expr × Position)) → Parse (List Case × Option Expr)
  | 0, s, _, _ => fail .incomplete s.pos
  | fuel + 1, s, read, otherwise => do
    let t ← peek
    let p := t.position
    match t.token, otherwise with
    | .symbol "\x7d", _ =>
      let _ ← next
      return (read.reverse, otherwise.map (·.1))
    | .finish, _ => fail (.missing "\x7d" closeSwitch) p
    | .symbol "_", none =>
      let _ ← next
      let (conditioned, q) ← accept "if"
      if conditioned then fail .conditionOnDefault q
      let (action, isClosed) ← caseAction fuel s
      endOfCase isClosed
      switchCases fuel s read (some (action, p))
    | _, some (_, q) => fail .defaultNotLast q
    | _, none =>
      let exprs ← caseValues fuel s []
      let guard ←
        if (← accept "if").1 then some <$> condition fuel s else pure none
      let (action, isClosed) ← caseAction fuel s
      let rangesBefore := read.any fun (.case _ ranges _ _) => !ranges.isEmpty
      let (values, ranges) ← caseParts rangesBefore exprs
      endOfCase isClosed
      switchCases fuel s (.case values ranges guard action :: read) none

/-- The values of a case, divided by bars. -/
def caseValues : (fuel : Nat) → Setting → (read : List Expr) → Parse (List Expr)
  | 0, s, _ => fail .incomplete s.pos
  | fuel + 1, s, read => do
    let before ← get
    match (expr fuel { s with inCase := true }).run before with
    | .error e => fail (.expressionExpected "literal") e.position
    | .ok (e, after) =>
      set after
      if (← accept "|").1 then caseValues fuel s (e :: read) else return (e :: read).reverse

/-- The arrow of a case and what it does; the second result tells that nothing has to follow it. -/
def caseAction : (fuel : Nat) → Setting → Parse (Expr × Bool)
  | 0, s => fail .incomplete s.pos
  | fuel + 1, s => do
    let _ ← expect "=>" "in this switch case"
    let action ← stmt fuel { s with global := false, inCase := false }
    return (inBlock action, action.isClosed)

def tryStmt : (fuel : Nat) → Setting → Parse Stmt
  | 0, s => fail .incomplete s.pos
  | fuel + 1, s => do
    let s ← s.deeper
    let p := (← next).position
    let s := { s with pos := p }
    let body ← block fuel s
    let _ ← expectPlainly "catch" "for the 'try' statement"
    let count := (← get).locals.length
    let name ←
      if (← accept "(").1 then
        let (name, _) ← variableName
        let _ ← expectPlainly ")" "to enclose the catch variable"
        introduce name false
        pure (some name)
      else pure none
    let handler ← block fuel s
    forget count
    return .try (bodyOf body) name (bodyOf handler) body.position p

/-- A declaration of a variable or a constant. -/
def declaration : (fuel : Nat) → Setting → (constant : Bool) → Parse Stmt
  | 0, s, _ => fail .incomplete s.pos
  | fuel + 1, s, constant => do
    let p := (← next).position
    let s := { s with pos := p }
    let (name, q) ← variableName
    let value ←
      if (← accept "=").1 then expr fuel (← s.deeper) else pure (.literal .unit q)
    let c ← get
    let inBlock := c.locals.take (c.locals.length - c.outside)
    match inBlock.findIdx? (·.name == name) with
    | some i =>
      set { c with locals := c.locals.set i ⟨name, constant⟩ }
      return .declare name constant true s.global value p
    | none =>
      introduce name constant
      return .declare name constant false s.global value p

/-- A variable made visible to the outside. -/
def exposure : (fuel : Nat) → Setting → Parse Stmt
  | 0, s => fail .incomplete s.pos
  | fuel + 1, s => do
    let p := (← next).position
    if ← comes "let" then declaration fuel (← s.deeper) false
    else if ← comes "const" then declaration fuel (← s.deeper) true
    else
      let (name, q) ← variableName
      if (← accept "as").1 then
        let _ ← variableName
      let _ := p
      return .expose name q

/-- A function definition, which leaves no statement behind. -/
def function : (fuel : Nat) → Setting → Parse Stmt
  | 0, s => fail .incomplete s.pos
  | fuel + 1, s => do
    let first ← next
    let start ←
      if isSymbol "private" first.token then
        let t ← next
        if isSymbol "fn" t.token then pure t.position
        else fail (.missing "fn" "following 'private'") t.position
      else pure first.position
    let (kind, t) ← methodKind
    let name ← match t.token with
      | .name name => pure name
      | .reserved word => fail (reservedRefusal word) t.position
      | _ => fail .functionNameExpected t.position
    let opening ← peek
    let parameters ← match opening.token with
      | .symbol "()" => do
        let _ ← next
        pure []
      | .symbol "(" => do
        let _ ← next
        if (← accept ")").1 then pure [] else functionParameters fuel name []
      | _ => fail (.parametersExpected name) opening.position
    let outer ← get
    set { outer with locals := [], outside := 0, externals := [] }
    for parameter in parameters do introduce parameter false
    let bodyStart ← peek
    if !isSymbol "\x7b" bodyStart.token then fail (.bodyExpected name) bodyStart.position
    let inner : Setting :=
      { s with
        depth := 0, greatest := s.limits.functionDepth, pos := start, global := false
        inLoop := false, inFunction := true, inClosure := false }
    let body ← block fuel (← inner.deeper)
    modify fun c =>
      { c with locals := outer.locals, outside := outer.outside, externals := outer.externals }
    let c ← get
    let same (f : Function) : Bool :=
      f.name == name && f.parameters.length == parameters.length && f.kind == kind
    if c.functions.any same then fail (.functionExists name parameters.length) bodyStart.position
    let defined : Function := { name, parameters, body := bodyOf body, kind }
    set { c with functions := c.functions ++ [defined] }
    return .nothing start

/-- The parameters of a function up to the closing parenthesis. -/
def functionParameters : (fuel : Nat) → (name : String) → (read : List String) →
    Parse (List String)
  | 0, _, _ => fail .incomplete default
  | fuel + 1, name, read => do
    let t ← next
    match t.token with
    | .symbol ")" => return read.reverse
    | .name parameter =>
      if read.contains parameter then fail (.duplicateParameter parameter name) t.position
      let t ← next
      match t.token with
      | .symbol ")" => return (parameter :: read).reverse
      | .symbol "," => functionParameters fuel name (parameter :: read)
      | .fault f => fail (.token f) t.position
      | _ =>
        fail (.missing "," ("to separate the parameters of function '" ++ name ++ "'")) t.position
    | .fault f => fail (.token f) t.position
    | _ =>
      fail (.missing ")" ("to close the parameters list of function '" ++ name ++ "'")) t.position

end

/-- The statements of a whole script. -/
def script : (fuel : Nat) → Setting → (read : List Stmt) → Parse (List Stmt)
  | 0, s, _ => fail .incomplete s.pos
  | fuel + 1, s, read => do
    let t ← peek
    match t.token with
    | .finish => return read.reverse
    | _ =>
      let st ← stmt (fuel + 1) s
      if st.isNothing then script fuel s read
      else
        let t ← peek
        match t.token with
        | .finish => return (st :: read).reverse
        | .symbol ";" =>
          let _ ← next
          script fuel s (st :: read)
        | _ =>
          if st.isClosed then script fuel s (st :: read)
          else
            match t.token with
            | .fault f => fail (.token f) t.position
            | _ => fail (.missing ";" "to terminate this statement") t.position

end Parser

/-- A fragment that is a single expression, without any variables. -/
def Expr.read (limits : Limits) (quotedKeys : Bool) (ts : List Located) : Except SyntaxError Expr :=
  let setting : Parser.Setting :=
    { limits, parameters := [], greatest := limits.depth, pos := ⟨1, 1⟩, global := true, quotedKeys }
  let whole : Parser.Parse Expr := do
    let e ← Parser.expr (24 * ts.length + 64) setting
    let t ← Parser.peek
    match t.token with
    | .finish => return e
    | .fault f => Parser.fail (.token f) t.position
    | token => Parser.fail (.token (.unexpected (Parser.spelling token))) t.position
  (whole.run { rest := ts }).map (·.1)

/-- A script with these parameters, read. -/
def Program.read (limits : Limits) (parameters : List String) (source : String) :
    Except SyntaxError Program :=
  let ts := tokens limits.textSize source
  let setting : Parser.Setting :=
    { limits, parameters, greatest := limits.depth, pos := ⟨1, 1⟩, global := true }
  match (Parser.script (24 * ts.length + 64) setting []).run { rest := ts } with
  | .ok (body, progress) => .ok { parameters, body, functions := progress.functions }
  | .error e => .error e

end LiveForm.Script

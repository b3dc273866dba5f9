import LiveForm.Schema
import LiveForm.Yaml.Lexer
import LiveForm.Yaml.Resolution

/-!
# Reading YAML documents against a schema

`Yaml.readAs?` reads a text as what a schema describes. Where a text is expected, every scalar is its own
text, whatever it might stand for. Where a list or a record is expected, nothing at all is the empty one.
Members that the schema does not know are passed over unread.

An alias is read as the node it stands for. So that reading ends, nodes nest at most 128 deep, and a
document may follow a hundred times as many aliases as it has nodes (`Reading`).
-/

namespace LiveForm.Yaml

/-- Reading with a number of aliases that may still be followed. -/
abbrev Reading := StateT Nat Option

namespace Reading

/-- The node an alias stands for; any other node stands for itself. -/
def follow (doc : Document) : Node → Reading Node
  | .alias number => do
    match ← get with
    | 0 => failure
    | left + 1 => set left
    match doc.anchored.lookup number with
    | some node => return node
    | none => failure
  | node => return node

def ofOption {α : Type} (a : Option α) : Reading α := a.elim failure pure

/-- The text of a scalar. -/
def text (doc : Document) (n : Node) : Reading String := do
  match ← follow doc n with
  | .scalar _ _ s => return s
  | _ => failure

/-- The text of a scalar that is plain, or a literal block with a tag. -/
def bareText (doc : Document) (tag : String) (n : Node) : Reading String := do
  match ← follow doc n with
  | .scalar t style s =>
    if style = .plain || (style = .literal && t == some (Resolution.standardTag tag)) then return s
    else failure
  | _ => failure

/-- The entries of a map by the texts of their keys, in the order they are written in. -/
def entries (doc : Document) (es : List (Node × Node)) : Reading (List (String × Node)) :=
  es.mapM fun (k, v) => do return (← text doc k, v)

/-- Whether a node is nothing at all. -/
def isNothing : Node → Bool
  | .scalar _ style s => style = .plain && s.isEmpty
  | _ => false

/-- A local tag, without its exclamation mark. -/
def localName? (tag : Option String) : Option String :=
  (tag.filter Resolution.isLocal).map fun t => if t == "!" then t else (t.drop 1).toString

/-- The value of a node. Of entries with the same key the last one counts. -/
def value (doc : Document) : (depth : Nat) → Node → Reading Json
  | 0, n => do
    match ← follow doc n with
    | .scalar tag style s => ofOption (Resolution.scalarValue? tag style s)
    | _ => failure
  | depth + 1, n => do
    match ← follow doc n with
    | .scalar tag style s => ofOption (Resolution.scalarValue? tag style s)
    | .list tag items =>
      if (localName? tag).isSome then failure
      return .arr (← items.mapM (value doc depth))
    | .map tag es =>
      if (localName? tag).isSome then failure
      let members ← (← entries doc es).mapM fun (k, v) => do return (k, ← value doc depth v)
      return .object members
    | .alias _ => failure

/-- One of several words; it may also be given as a local tag on nothing. -/
def word (choices : List String) : Node → Reading Datum
  | .scalar tag style s =>
    let name? := match localName? tag with
      | some name =>
        if style == Style.plain && (s.isEmpty || Resolution.isNull s) then some name else none
      | none => some s
    match name?.filter choices.contains with
    | some name => return .text name
    | none => failure
  | _ => failure

/-- Whether an optional place is left empty. -/
def isAbsent : Node → Reading Bool
  | .scalar tag style s =>
    if style != .plain then return false
    else if tag == some (Resolution.standardTag "null") then
      if Resolution.isNull s then return true else failure
    else if tag.isSome then return false
    else return s.isEmpty || Resolution.isNull s
  | _ => return false

mutual

/-- A node read against a schema, where so many levels of collections may still be entered. -/
def datum (doc : Document) : Schema → (depth : Nat) → Node → Reading Datum
  | .any, depth, n => do return .value (← value doc depth n)
  | .text, _, n => do return .text (← text doc n)
  | .flag, _, n => do return .flag (← ofOption (Resolution.flag? (← bareText doc "bool" n)))
  | .real, _, n => do return .real (← ofOption (Resolution.float? (← bareText doc "float" n)))
  | .count, _, n => do return .count (← ofOption (Resolution.count? (← bareText doc "int" n)))
  | .optional of, depth, n => do
    let n ← follow doc n
    if ← isAbsent n then return .absent else datum doc of depth n
  | .word choices, _, n => do word choices (← follow doc n)
  | .list of, depth, n => do
    let n ← follow doc n
    if isNothing n then return .list []
    match n, depth with
    | .list _ items, depth + 1 => return .list (← items.mapM (datum doc of depth))
    | _, _ => failure
  | .texts, depth, n => do
    let n ← follow doc n
    if isNothing n then return .record []
    match n, depth with
    | .map _ es, _ + 1 =>
      return .record (← (← entries doc es).mapM fun (k, v) => do return (k, .text (← text doc v)))
    | _, _ => failure
  | .record _ shape, depth, n => do
    let n ← follow doc n
    if isNothing n then return .record (← members doc shape 0 [])
    match n, depth with
    | .map _ es, depth + 1 => return .record (← members doc shape depth (← entries doc es))
    | .list _ items, depth + 1 => return .record (← listed doc shape depth items)
    | _, _ => failure

/-- The members of a record in the order of the schema, each under its own name. -/
def members (doc : Document) : List (Member Schema) → (depth : Nat) → List (String × Node) →
    Reading (List (String × Datum))
  | [], _, _ => return []
  | m :: rest, depth, es => do
    match es.filter fun (k, _) => m.answersTo k with
    | [] => if m.required then failure else members doc rest depth es
    | [(_, n)] =>
      let d ← datum doc m.shape depth n
      return (m.name, d) :: (← members doc rest depth es)
    | _ => failure

/-- The members of a record that is given as a list of them. -/
def listed (doc : Document) : List (Member Schema) → (depth : Nat) → List Node →
    Reading (List (String × Datum))
  | [], _, [] => return []
  | [], _, _ :: _ => failure
  | m :: rest, depth, [] => if m.listed then failure else listed doc rest depth []
  | m :: rest, depth, n :: more => do
    let d ← datum doc m.shape depth n
    return (m.name, d) :: (← listed doc rest depth more)

end

/-- The deepest nesting of collections. -/
def greatestDepth : Nat := 128

end Reading

/-- A document read against a schema. -/
def Document.readAs? (schema : Schema) (doc : Document) : Option Datum :=
  let nodes := doc.root.size
  ((Reading.datum doc schema Reading.greatestDepth doc.root).run (100 * nodes)).map (·.1)

/-- A text read as what a schema describes, or nothing if it is malformed or does not fit. -/
def readAs? (schema : Schema) (source : String) : Option Datum := do
  (← Document.ofTokens? (← tokens? source)).readAs? schema

end LiveForm.Yaml

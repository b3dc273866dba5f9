import LiveForm.Yaml.Token

/-!
# Documents as trees

A document is a tree of nodes. An alias holds the number of the anchored node it stands for, and the
document knows these nodes by their numbers; so a node may stand inside itself.

`Document.ofTokens?` builds the tree. An anchor is numbered where it is set and found by its name from
there on. Its number is that of the names there are before it; so one that takes its name from another anchor
may later lose its number to a third, and then its aliases stand for the node of that one. Where a node may be
left out the empty plain scalar takes its place (`Node.empty`).
-/

namespace LiveForm.Yaml

inductive Node where
  | scalar (tag : Option String) (style : Style) (text : String)
  | list (tag : Option String) (items : List Node)
  | map (tag : Option String) (entries : List (Node × Node))
  | alias (number : Nat)

instance : Inhabited Node := ⟨.alias 0⟩

namespace Node

/-- The node that stands where there is none. -/
def empty : Node := .scalar none .plain ""

mutual

/-- The number of nodes in a tree, where collections count at their start and at their end. -/
def size : Node → Nat
  | .scalar _ _ _ | .alias _ => 1
  | .list _ items => sizeOfItems items + 2
  | .map _ entries => sizeOfEntries entries + 2

def sizeOfItems : List Node → Nat
  | [] => 0
  | item :: rest => item.size + sizeOfItems rest

def sizeOfEntries : List (Node × Node) → Nat
  | [] => 0
  | (k, v) :: rest => k.size + v.size + sizeOfEntries rest

end

end Node

structure Document where
  root : Node
  /-- The anchored nodes by the numbers of their anchors. Of one number the first counts. -/
  anchored : List (Nat × Node) := []

/-! ## From tokens to trees -/

/-- Where building a tree stands. -/
structure Builder where
  tokens : List Token
  /-- What the handles of tags stand for. -/
  handles : List (String × String) := []
  /-- The names of anchors with their numbers. -/
  names : List (String × Nat) := []
  /-- The numbers of the anchors that were set, the latest first. -/
  numbers : List Nat := []
  /-- The anchored nodes by the places of their anchors in the order they were set. -/
  nodes : List (Nat × Node) := []

/-- The anchored nodes by the numbers of their anchors, the latest first. -/
def Builder.anchored (b : Builder) : List (Nat × Node) :=
  b.numbers.reverse.zipIdx.reverse.filterMap fun (number, place) => do
    return (number, ← b.nodes.lookup place)

/-- A step in building a tree, which fails if the tokens do not fit. -/
abbrev Building := StateT Builder Option

namespace Building

/-- The next token. -/
def peek : Building Token := do return (← get).tokens.headD .streamEnd

/-- One token further. -/
def skip : Building Unit := modify fun b => { b with tokens := b.tokens.tail }

def expect (t : Token) : Building Unit := do
  if (← peek) = t then skip else failure

/-- The name of a tag, in which a handle is replaced by what it stands for. -/
def tagOf (handle suffix : String) : Building String := do
  if handle.isEmpty then return suffix
  match (← get).handles.lookup handle with
  | some stem => return stem ++ suffix
  | none => failure

def tag? : Building (Option String) := do
  match ← peek with
  | .tag handle suffix => skip; return some (← tagOf handle suffix)
  | _ => return none

def anchor? : Building (Option String) := do
  match ← peek with
  | .anchor name => skip; return some name
  | _ => return none

/-- The anchor and the tag of a node, in either order. -/
def properties : Building (Option String × Option String) := do
  match ← anchor? with
  | some name => return (some name, ← tag?)
  | none =>
    let tag ← tag?
    if tag.isSome then return (← anchor?, tag) else return (none, none)

/-- An anchor set on the node that a step builds. -/
def anchored (name : Option String) (build : Building Node) : Building Node := do
  match name with
  | none => build
  | some name =>
    let place := (← get).numbers.length
    modify fun b =>
      let number := b.names.length
      { b with
        names := (name, number) :: b.names.filter (·.1 != name)
        numbers := number :: b.numbers }
    let node ← build
    modify fun b => { b with nodes := (place, node) :: b.nodes }
    return node

/-- The node an alias stands for. -/
def aliasOf (name : String) : Building Node := do
  match (← get).names.lookup name with
  | some number => return .alias number
  | none => failure

/-- A node unless a token stands where it is left out. -/
def unlessAt (ends : List Token) (build : Building Node) : Building Node := do
  if ends.contains (← peek) then return .empty else build

/-- The tag of a scalar that is written out. The tag that is only an exclamation mark is none. -/
def scalarTag (tag : Option String) : Option String := if tag = some "!" then none else tag

mutual

/-- A node. Block collections are possible only outside of flow collections, and a list without an
indentation of its own only as the key or the value of a block map. -/
def node (inBlock unindented : Bool) : (fuel : Nat) → Building Node
  | 0 => failure
  | fuel + 1 => do
    match ← peek with
    | .alias name => skip; aliasOf name
    | _ =>
      let (name, tag) ← properties
      anchored name do
        match ← peek with
        | .blockEntry =>
          if unindented then return .list tag (← unindentedItems fuel)
          else if name.isSome || tag.isSome then return .scalar tag .plain ""
          else failure
        | .scalar style text => skip; return .scalar (scalarTag tag) style text
        | .flowList => skip; return .list tag (← flowItems true fuel)
        | .flowMap => skip; return .map tag (← flowEntries true fuel)
        | t =>
          if inBlock && t = .blockList then skip; return .list tag (← blockItems fuel)
          else if inBlock && t = .blockMap then skip; return .map tag (← blockEntries fuel)
          else if name.isSome || tag.isSome then return .scalar tag .plain ""
          else failure

/-- The items of a block list and its end. -/
def blockItems : (fuel : Nat) → Building (List Node)
  | 0 => failure
  | fuel + 1 => do
    match ← peek with
    | .blockEnd => skip; return []
    | .blockEntry =>
      skip
      let item ← unlessAt [.blockEntry, .blockEnd] (node true false fuel)
      return item :: (← blockItems fuel)
    | _ => failure

/-- The items of a list without an indentation of its own. -/
def unindentedItems : (fuel : Nat) → Building (List Node)
  | 0 => failure
  | fuel + 1 => do
    match ← peek with
    | .blockEntry =>
      skip
      let item ← unlessAt [.blockEntry, .key, .value, .blockEnd] (node true false fuel)
      return item :: (← unindentedItems fuel)
    | _ => return []

/-- The entries of a block map and its end. -/
def blockEntries : (fuel : Nat) → Building (List (Node × Node))
  | 0 => failure
  | fuel + 1 => do
    match ← peek with
    | .blockEnd => skip; return []
    | .key =>
      skip
      let k ← unlessAt [.key, .value, .blockEnd] (node true true fuel)
      let v ← blockValue fuel
      return (k, v) :: (← blockEntries fuel)
    | _ => failure

/-- The value of an entry of a block map. -/
def blockValue : (fuel : Nat) → Building Node
  | 0 => failure
  | fuel + 1 => do
    match ← peek with
    | .value => skip; unlessAt [.key, .value, .blockEnd] (node true true fuel)
    | _ => return .empty

/-- The items of a flow list and its end. Between items stands a comma, and one may stand at the end. -/
def flowItems (first : Bool) : (fuel : Nat) → Building (List Node)
  | 0 => failure
  | fuel + 1 => do
    if (← peek) = .flowListEnd then skip; return []
    if !first then expect .flowEntry
    match ← peek with
    | .flowListEnd => skip; return []
    | .key =>
      skip
      let entry ← singleEntry fuel
      return .map none [entry] :: (← flowItems false fuel)
    | _ =>
      let item ← node false false fuel
      return item :: (← flowItems false fuel)

/-- A map of one entry inside a flow list, after the mark of its key. Where the key is left out the token
there is passed over. -/
def singleEntry : (fuel : Nat) → Building (Node × Node)
  | 0 => failure
  | fuel + 1 => do
    let k ← if [.value, .flowEntry, .flowListEnd].contains (← peek) then do skip; pure Node.empty
      else node false false fuel
    match ← peek with
    | .value => skip; return (k, ← unlessAt [.flowEntry, .flowListEnd] (node false false fuel))
    | _ => return (k, .empty)

/-- The entries of a flow map and its end. A node without the mark of a key is a key without a value. -/
def flowEntries (first : Bool) : (fuel : Nat) → Building (List (Node × Node))
  | 0 => failure
  | fuel + 1 => do
    if (← peek) = .flowMapEnd then skip; return []
    if !first then expect .flowEntry
    match ← peek with
    | .flowMapEnd => skip; return []
    | .key =>
      skip
      let k ← unlessAt [.value, .flowEntry, .flowMapEnd] (node false false fuel)
      let v ← flowValue fuel
      return (k, v) :: (← flowEntries false fuel)
    | _ =>
      let k ← node false false fuel
      return (k, .empty) :: (← flowEntries false fuel)

/-- The value of an entry of a flow map. -/
def flowValue : (fuel : Nat) → Building Node
  | 0 => failure
  | fuel + 1 => do
    match ← peek with
    | .value => skip; unlessAt [.flowEntry, .flowMapEnd] (node false false fuel)
    | _ => return .empty

end

/-- The handles that need no directive. -/
def knownHandles : List (String × String) := [("!", "!"), ("!!", "tag:yaml.org,2002:")]

/-- The directives in front of a document; whether there are any, and whether the version is told. -/
def directives (versioned : Bool) : (fuel : Nat) → Building Bool
  | 0 => failure
  | fuel + 1 => do
    match ← peek with
    | .version major minor =>
      if versioned || major != 1 || (minor != 1 && minor != 2) then failure
      skip
      let _ ← directives true fuel
      return true
    | .tagDirective handle stem =>
      if ((← get).handles.lookup handle).isSome then failure
      skip
      modify fun b => { b with handles := (handle, stem) :: b.handles }
      let _ ← directives versioned fuel
      return true
    | _ => return false

/-- The root of a document that starts with its mark. -/
def markedRoot (fuel : Nat) : Building Node := do
  expect .documentStart
  match ← peek with
  | .version _ _ | .tagDirective _ _ | .documentStart | .documentEnd | .streamEnd => return .empty
  | _ => node true false fuel

/-- The root of the only document, and the end of the text after it. -/
def root (fuel : Nat) : Building Node := do
  let hasDirectives ← directives false fuel
  modify fun b => { b with handles := b.handles ++ knownHandles }
  let root ← match ← peek with
    | .streamEnd => if hasDirectives then failure else pure Node.empty
    | .documentStart => markedRoot fuel
    | _ => if hasDirectives then failure else node true false fuel
  finish fuel
  return root
where
  /-- The marks of the end, and the end itself. -/
  finish : (fuel : Nat) → Building Unit
    | 0 => failure
    | fuel + 1 => do
      match ← peek with
      | .streamEnd => return ()
      | .documentEnd => skip; finish fuel
      | _ => failure

end Building

/-- The document that tokens stand for, or nothing if they are not one document. -/
def Document.ofTokens? (tokens : List Token) : Option Document := do
  let (root, b) ← (Building.root (2 * tokens.length + 8)).run { tokens }
  return { root, anchored := b.anchored }

end LiveForm.Yaml

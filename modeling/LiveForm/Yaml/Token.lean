/-!
# The tokens of YAML

A text is a row of tokens in which everything that indentation says is written out: where a block
collection starts and ends, and which of its nodes are keys.
-/

namespace LiveForm.Yaml

/-- The ways a scalar can be written. -/
inductive Style where
  | plain
  | singleQuoted
  | doubleQuoted
  | literal
  | folded
  deriving DecidableEq, Repr

inductive Token where
  | version (major minor : Nat)
  /-- A handle and what it stands for. -/
  | tagDirective (handle : String) (stem : String)
  | documentStart
  | documentEnd
  | streamEnd
  | blockList
  | blockMap
  | blockEnd
  | flowList
  | flowListEnd
  | flowMap
  | flowMapEnd
  | blockEntry
  | flowEntry
  | key
  | value
  | anchor (name : String)
  | alias (name : String)
  | tag (handle : String) (suffix : String)
  | scalar (style : Style) (text : String)
  deriving DecidableEq, Repr

end LiveForm.Yaml

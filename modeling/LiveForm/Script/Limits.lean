/-!
# Limits of scripts

How much a script may do and build. A limit of zero is no limit, except that on nested calls, where zero
allows none.
-/

namespace LiveForm.Script

structure Limits where
  /-- The greatest number of steps of a run. -/
  operations : Nat := 100000
  /-- The greatest number of nested calls of script functions. -/
  callLevels : Nat := 32
  /-- The greatest nesting of expressions outside of functions. -/
  depth : Nat := 64
  /-- The greatest nesting of expressions in functions. -/
  functionDepth : Nat := 32
  /-- The greatest length of a text in bytes. -/
  textSize : Nat := 1048576
  arraySize : Nat := 10000
  mapSize : Nat := 10000
  deriving DecidableEq, Repr

/-- Whether a number is over a limit. -/
def Limits.exceeds (limit n : Nat) : Bool := limit != 0 && limit < n

end LiveForm.Script

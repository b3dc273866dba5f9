/-!
# Positions in a script

Every token and every node of a syntax tree knows where it starts: a line and a column, both counted
from one, in characters.
-/

namespace LiveForm.Script

structure Position where
  line : Nat
  column : Nat
  deriving DecidableEq, Repr, Inhabited

namespace Position

/-- What stands for a position where there is none. -/
def unknown : Position := ⟨0, 0⟩

/-- A position unless it is not known. -/
def known? (p : Position) : Option Position := if p = unknown then none else some p

/-- A position inside a message. -/
def describe (p : Position) : String :=
  "line " ++ toString p.line ++ ", position " ++ toString p.column

end Position

end LiveForm.Script

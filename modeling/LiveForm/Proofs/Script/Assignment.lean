import LiveForm.Script.Sandbox

/-!
# Scripts that assign

The scripts of hooks that edit their copies, statement by statement: an assignment to a member of an item of
the array of elements, and one to a member of the element itself. They have the positions they get when the
statement is the first one of a line that starts in this column.
-/

namespace LiveForm.Script

/-- The statement `elements[place].member = v`. -/
def Stmt.assignItem (column : Nat) (place : Int64) (member : String) (v : Value) : Stmt :=
  .assign
    (.chain (.variable "elements" false ⟨1, column⟩)
      [.index (.literal (.int place) ⟨1, column + 9⟩) false ⟨1, column + 8⟩,
        .property member false ⟨1, column + 11⟩ ⟨1, column + 12⟩])
    none (.literal v ⟨1, column + member.length + 15⟩) ⟨1, column + member.length + 13⟩

/-- The statement `element.member = v`. -/
def Stmt.assignOwn (column : Nat) (member : String) (v : Value) : Stmt :=
  .assign
    (.chain (.variable "element" false ⟨1, column⟩)
      [.property member false ⟨1, column + 7⟩ ⟨1, column + 8⟩])
    none (.literal v ⟨1, column + member.length + 11⟩) ⟨1, column + member.length + 9⟩

/-- A hook of such statements. -/
def assigning (body : List Stmt) : Program := ⟨HookKind.parameters, body, []⟩

end LiveForm.Script

import LiveForm.Script.Builtin.Table
import LiveForm.Script.Tree

/-!
# The state of a running script

A script runs on a `Machine`: the variables in sight, the cells that captured variables have moved to,
and counts of what is limited. The machine survives a fault, so that a script can handle it and go on with
what it had. Statements that leave their place do so by a `Signal`, as faults do.

The machine carries the state of its surroundings, of any type, for functions that reach beyond the script.
-/

namespace LiveForm.Script

/-- How a variable may be used. -/
inductive Access where
  | variable
  | constant
  deriving DecidableEq, Repr

structure Binding where
  name : String
  value : Value
  access : Access := .variable

/-- Whether a function that is called on a variable works on the variable itself, and not on a copy. -/
def Binding.works (b : Binding) : Bool :=
  match b.value, b.access with
  | .shared _, _ | _, .constant => false
  | _, .variable => true

structure Machine (σ : Type) where
  /-- The variables, innermost first. -/
  scope : List Binding
  this : Option Value := none
  /-- How `this` may be used. -/
  thisAccess : Access := .variable
  /-- The constants of the top level of the script so far, the latest first. -/
  constants : List (String × Value) := []
  cells : Array Value := #[]
  /-- The steps made so far. -/
  steps : Nat := 0
  /-- The calls around the current place. -/
  level : Nat := 0
  world : σ

/-- What makes a script leave the place it is at. -/
inductive Signal where
  | fault (f : Fault)
  /-- Out of the innermost loop, with a value if `break` had one. -/
  | leaveLoop (v : Option Value)
  | nextRound
  /-- Out of the function, or of the whole script. -/
  | answer (v : Value)
  /-- Out of the whole script. -/
  | finish (v : Value)
  | outOfFuel

abbrev Run (σ : Type) := ExceptT Signal (StateM (Machine σ))

namespace Run

variable {σ α β : Type}

def failAt (p : Position) (c : Cause) : Run σ α := throw (.fault (.met p c))

/-- A result, or a fault at a place. -/
def orFail (p : Position) : Except Cause α → Run σ α
  | .ok a => pure a
  | .error c => failAt p c

/-- A value, or a signal given on. -/
def give : Except Signal α → Run σ α
  | .ok a => pure a
  | .error s => throw s

/-- The outcome of a part of a run as a value. -/
def outcome (act : Run σ α) : Run σ (Except Signal α) := fun m =>
  let (r, next) := act m
  (.ok r, next)

/-- A part of a run with something put right after it, however it ends. -/
def afterwards (act : Run σ α) (mend : Machine σ → Machine σ) : Run σ α := fun m =>
  let (r, next) := act m
  (r, mend next)

/-- A part of a run at one call level more. -/
def inCall (act : Run σ α) : Run σ α := do
  let level := (← get).level
  modify fun m => { m with level := level + 1 }
  afterwards act fun m => { m with level }

/-- A part of a run whose steps do not count afterwards. -/
def uncounted (act : Run σ α) : Run σ α := do
  let steps := (← get).steps
  afterwards act fun m => { m with steps }

/-- A part of a run whose new variables are forgotten afterwards. -/
def inBlock (act : Run σ α) : Run σ α := do
  let count := (← get).scope.length
  afterwards act fun m => { m with scope := m.scope.drop (m.scope.length - count) }

/-- One step more, at this place. -/
def tick (limits : Limits) (p : Position) : Run σ Unit := do
  let m ← get
  set { m with steps := m.steps + 1 }
  if Limits.exceeds limits.operations (m.steps + 1) then failAt p .tooManySteps

/-- So many steps that are to be possible here, and do not count afterwards. -/
def reserve (limits : Limits) (count : Nat) (p : Position) : Run σ Unit := do
  if count != 0 && Limits.exceeds limits.operations ((← get).steps + count) then
    failAt p .tooManySteps

/-- Rounds until one ends the loop. The fuel is the greatest number of rounds. -/
def rounds (round : α → Run σ (α ⊕ β)) : (fuel : Nat) → α → Machine σ → Except Signal β × Machine σ
  | 0, _, m => (.error .outOfFuel, m)
  | fuel + 1, a, m =>
    match round a m with
    | (.ok (.inl next), m) => rounds round fuel next m
    | (.ok (.inr result), m) => (.ok result, m)
    | (.error s, m) => (.error s, m)

end Run

/-! ## Sizes -/

/-- What is too large about a size, if anything is. -/
def Limits.tooLarge? (limits : Limits) (s : Value.Size) : Option Cause :=
  if Limits.exceeds limits.textSize s.bytes then some (.tooLarge "Length of string")
  else if Limits.exceeds limits.arraySize s.items then some (.tooLarge "Size of array/BLOB")
  else if Limits.exceeds limits.mapSize s.members then some (.tooLarge "Size of object map")
  else none

/-- A value that is not too large. -/
def Run.sized {σ : Type} (limits : Limits) (p : Position) (v : Value) : Run σ Value :=
  match limits.tooLarge? v.size with
  | some c => failAt p c
  | none => return v

/-! ## Variables -/

namespace Machine

variable {σ : Type}

/-- A value as it is now, out of its cell. -/
def current (m : Machine σ) : Value → Value
  | .shared cell => m.cells.getD cell .unit
  | v => v

/-- The innermost variable of a name. -/
def find? (m : Machine σ) (name : String) : Option Binding := m.scope.find? (·.name == name)

/-- The scope with the innermost variable of a name changed. -/
def updateFirst (name : String) (f : Binding → Binding) : List Binding → List Binding
  | [] => []
  | b :: rest => if b.name == name then f b :: rest else b :: updateFirst name f rest

/-- The machine with a new value in a variable, or in its cell. -/
def write (m : Machine σ) (name : String) (v : Value) : Machine σ :=
  match m.find? name with
  | some ⟨_, .shared cell, _⟩ => { m with cells := m.cells.setIfInBounds cell v }
  | _ => { m with scope := updateFirst name (fun b => { b with value := v }) m.scope }

/-- The machine with a new value in `this`, or in its cell. -/
def writeThis (m : Machine σ) (v : Value) : Machine σ :=
  match m.this with
  | some (.shared cell) => { m with cells := m.cells.setIfInBounds cell v }
  | _ => { m with this := some v }

/-- The machine with one variable more. -/
def declare (m : Machine σ) (b : Binding) : Machine σ := { m with scope := b :: m.scope }

/-- The machine with the innermost variable of a name replaced by a new one. -/
def redeclare (m : Machine σ) (b : Binding) : Machine σ :=
  { m with scope := updateFirst b.name (fun _ => b) m.scope }

/-- What a closure captures of a variable: its cell, to which the variable moves if it has none. -/
def capture? (m : Machine σ) (name : String) : Option (Value × Machine σ) :=
  match m.find? name with
  | none => none
  | some b =>
    match b.value with
    | .shared cell => some (.shared cell, m)
    | v =>
      let cell := m.cells.size
      let shared : Value := .shared cell
      some (shared,
        { m with
          cells := m.cells.push v
          scope := updateFirst name (fun b => { b with value := shared }) m.scope })

/-- The variables with their values, innermost first. -/
def bindings (m : Machine σ) : List (String × Value) :=
  m.scope.map fun b => (b.name, m.current b.value)

end Machine

end LiveForm.Script

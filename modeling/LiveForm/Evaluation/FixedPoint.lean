import LiveForm.Evaluation.Derive
import LiveForm.Evaluation.React
import LiveForm.Form.Snapshot

/-!
# Evaluation to a fixed point

A pass derives the state of all elements and then lets them react to values. Passes follow each other
until one writes nothing; the form is then at a fixed point. The number of passes is limited. When the
last one allowed has still written, the state is derived once more, so that it fits the values, and a
diagnostic says that there was no end.
-/

namespace LiveForm

/-- What an evaluation comes to. -/
structure Evaluated (Program : Type) where
  snapshot : Snapshot
  passes : Nat
  converged : Bool
  /-- The ids of the elements that hooks have given new values, first changes first. -/
  changed : List String
  /-- The hooks that failed, each call counted. -/
  faults : Nat
  diagnostics : List Diagnostic
  registry : Registry Program

namespace Evaluation

/-- The state between two passes. -/
structure Progress where
  elements : List Element
  changed : List String := []
  passes : Nat := 0
  converged : Bool := false
  /-- The diagnostics of failed hooks. -/
  faults : List Diagnostic := []

variable {Program : Type}

/-- One pass. It converges if it writes nothing. -/
def pass (engine : Engine Program) (hooks : List (ResolvedHooks Program)) (p : Progress) :
    Progress :=
  let (derived, faults) := derive engine hooks p.elements
  let r := react engine hooks derived p.changed
  { elements := r.elements
    changed := r.changed
    passes := p.passes + 1
    converged := !r.dirty
    faults := p.faults ++ faults ++ r.diagnostics }

/-- Passes until one converges, at most so many. -/
def iterate (engine : Engine Program) (hooks : List (ResolvedHooks Program)) :
    (left : Nat) → Progress → Progress
  | 0, p => p
  | left + 1, p =>
    let next := pass engine hooks p
    if next.converged then next else iterate engine hooks left next

/-- The state derived once more after passes without an end. -/
def settle (engine : Engine Program) (hooks : List (ResolvedHooks Program)) (p : Progress) :
    Progress :=
  if p.converged then p
  else
    let (derived, faults) := derive engine hooks p.elements
    { p with elements := derived, faults := p.faults ++ faults }

/-- Evaluation with hooks that have been resolved. `limit` is the greatest number of passes; there is
always one. -/
def run (engine : Engine Program) (hooks : List (ResolvedHooks Program)) (limit : Nat)
    (elements : List Element) : Progress :=
  settle engine hooks (iterate engine hooks (max limit 1) { elements })

/-- The evaluation of a snapshot. -/
def evaluate (engine : Engine Program) (limit : Nat) (registry : Registry Program) (s : Snapshot) :
    Evaluated Program :=
  let (hooks, compileErrors, registry) := registry.resolveAll engine s.elements
  let p := run engine hooks limit s.elements
  { snapshot := ((Snapshot.ofElements? p.elements s.initial).toOption).getD s
    passes := p.passes
    converged := p.converged
    changed := p.changed
    faults := p.faults.length
    diagnostics := compileErrors ++ p.faults ++
      if p.converged then [] else [.convergenceExceeded (max limit 1)]
    registry }

end Evaluation

end LiveForm

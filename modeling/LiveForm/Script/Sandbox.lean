import LiveForm.Script.ElementView
import LiveForm.Script.Engine
import LiveForm.Script.Eval
import LiveForm.Script.Parser
import LiveForm.Script.Simplify

/-!
# The sandbox

The script engine of the library: scripts are compiled and run under limits, and they reach nothing but
their arguments and the functions that find elements. `Sandbox.runIn` runs a script in surroundings with
further functions and a state of their own.
-/

namespace LiveForm.Script

def SyntaxError.asScriptError (e : SyntaxError) : ScriptError :=
  .compile e.message (e.position.known?.map (·.line)) (e.position.known?.map (·.column))

def Fault.asScriptError (f : Fault) : ScriptError :=
  .runtime f.message (f.position.map (·.line)) (f.position.map (·.column))

namespace Sandbox

/-- A script compiled under limits. -/
def compile (limits : Limits) (parameters : List String) (source : String) :
    Except ScriptError Program :=
  match Program.read limits parameters source with
  | .ok program => .ok (program.simplified limits source.length)
  | .error e => .error e.asScriptError

/-- The parameters bound to the arguments; those without one are the unit. -/
def bind : List String → List Value → List Binding
  | [], _ => []
  | name :: names, [] => bind names [] ++ [{ name, value := .unit }]
  | name :: names, v :: vs => bind names vs ++ [{ name, value := v }]

/-- How a run ended. -/
def finished : Except Signal Value → Except ScriptError Value
  | .ok v | .error (.answer v) | .error (.finish v) => .ok v
  | .error (.fault f) => .error f.asScriptError
  | .error _ => .error (Fault.plain .tooManySteps none).asScriptError

/-- A run of a script in surroundings with functions of their own, and the state it leaves there. -/
def runIn {σ : Type} (limits : Limits)
    (extra : String → List Value → σ → Option (Except Cause Outcome × σ)) (world : σ)
    (program : Program) (args : List Value) : Except ScriptError Invocation × σ :=
  let c : Context σ :=
    { program, limits
      extra := fun name args world =>
        match viewFunction? name args with
        | some r => some (r, world)
        | none => extra name args world }
  let start : Machine σ := { scope := bind program.parameters args, world }
  let (r, m) := Run.sequence c Run.enoughFuel .unit program.body start
  let invocation := (finished r).map fun v => ⟨m.current v, m.bindings⟩
  (invocation, m.world)

/-- A run of a script that reaches nothing else. -/
def run (limits : Limits) (program : Program) (args : List Value) :
    Except ScriptError Invocation :=
  (runIn limits (fun _ _ _ => none) () program args).1

/-- The engine of the sandbox. -/
def engine (limits : Limits) : Engine Program := { compile := compile limits, run := run limits }

end Sandbox

end LiveForm.Script

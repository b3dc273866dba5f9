import LiveForm.Script.Error
import LiveForm.Script.ValueJson

/-!
# Script engines

What the rest of the library asks of scripts: that a source with named parameters is compiled once, and
that the compiled script can be run with arguments as often as one likes. A run either fails or leaves a
result and the variables as they are then. Both are functions of what they are given, so a script has no
memory of earlier runs.
-/

namespace LiveForm

/-- What a run leaves: its result, and the variables with their values, the latest ones first. -/
structure Invocation where
  result : Script.Value
  bindings : List (String × Script.Value)

/-- The value of the latest variable of a name. -/
def Invocation.value? (i : Invocation) (name : String) : Option Script.Value :=
  i.bindings.lookup name

/-- A way to compile and run scripts. -/
structure Engine (Program : Type) where
  compile : (parameters : List String) → (source : String) → Except ScriptError Program
  run : Program → List Script.Value → Except ScriptError Invocation

end LiveForm

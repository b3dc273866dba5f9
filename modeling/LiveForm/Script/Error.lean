/-!
# How a script fails

What the host learns of a script that did not do its work: it could not be compiled, it stopped while
running, or it ended with a value that is of no use to the one who asked. The first two carry the place
in the source, as far as it is known.
-/

namespace LiveForm

/-- A failure of one script. -/
inductive ScriptError where
  | compile (message : String) (line column : Option Nat)
  | runtime (message : String) (line column : Option Nat)
  | result (message : String)
  deriving DecidableEq, Repr

namespace ScriptError

/-- The place of a failure as messages give it. A column without a line says nothing. -/
def place : (line column : Option Nat) → String
  | some l, some c => " at line " ++ toString l ++ ", column " ++ toString c
  | some l, none => " at line " ++ toString l
  | none, _ => ""

def message : ScriptError → String
  | .compile m line column => "compile error" ++ place line column ++ ": " ++ m
  | .runtime m line column => "runtime error" ++ place line column ++ ": " ++ m
  | .result m => "unexpected result: " ++ m

end ScriptError

/-- Why the action of a button did not complete. -/
inductive ActionFault where
  | compile (error : ScriptError)
  | runtime (error : ScriptError)
  | task (message : String)
  deriving DecidableEq, Repr

def ActionFault.message : ActionFault → String
  | .compile e => "action code does not compile: " ++ e.message
  | .runtime e => "action failed: " ++ e.message
  | .task m => "action task failed: " ++ m

end LiveForm

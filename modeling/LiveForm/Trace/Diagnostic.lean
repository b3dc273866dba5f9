import LiveForm.Form.Element
import LiveForm.Script.Error

/-!
# Diagnostics

Whatever a script does wrong is contained: the form goes on with a default, and a diagnostic says what
happened, to which element, and where the script came from. It is made without a time, since what makes it
reads no clock, and is given one when it is reported (`Diagnostic.reportedAt`).
-/

namespace LiveForm

namespace Diagnostic

inductive Kind where
  | compileError
  | hookFault
  | convergenceExceeded
  | actionFault
  deriving DecidableEq, Repr

/-- The name of a kind in documents. -/
def Kind.name : Kind → String
  | .compileError => "compile_error"
  | .hookFault => "hook_runtime_fault"
  | .convergenceExceeded => "convergence_exceeded"
  | .actionFault => "action_runtime_fault"

/-- The name of a kind in a line for readers. -/
def Kind.label : Kind → String
  | .compileError => "CompileError"
  | .hookFault => "HookRuntimeFault"
  | .convergenceExceeded => "ConvergenceExceeded"
  | .actionFault => "ActionRuntimeFault"

/-- What a diagnostic is about. -/
inductive Source where
  | hook (kind : HookKind)
  | action
  | evaluator
  deriving DecidableEq, Repr

def Source.name : Source → String
  | .hook kind => kind.name
  | .action => "action"
  | .evaluator => "evaluator"

end Diagnostic

/-- One contained failure. -/
structure Diagnostic where
  /-- When it was reported, in milliseconds since the start of 1970. -/
  time : Nat := 0
  kind : Diagnostic.Kind
  elementId : Option String := none
  source : Diagnostic.Source
  detail : String
  deriving DecidableEq, Repr

namespace Diagnostic

/-- A hook that could not be compiled. -/
def hookCompileError (id : String) (hook : HookKind) (e : ScriptError) : Diagnostic :=
  { kind := .compileError, elementId := some id, source := .hook hook, detail := e.message }

/-- An action that could not be compiled. -/
def actionCompileError (id : String) (e : ScriptError) : Diagnostic :=
  { kind := .compileError, elementId := some id, source := .action, detail := e.message }

/-- A hook that ran and failed. -/
def hookFault (id : String) (hook : HookKind) (e : ScriptError) : Diagnostic :=
  { kind := .hookFault, elementId := some id, source := .hook hook, detail := e.message }

/-- An action that did not complete. -/
def actionFault (id : Option String) (fault : ActionFault) : Diagnostic :=
  { kind := .actionFault, elementId := id, source := .action, detail := fault.message }

/-- An evaluation that was stopped at its greatest number of passes. -/
def convergenceExceeded (passes : Nat) : Diagnostic :=
  { kind := .convergenceExceeded, source := .evaluator
    detail := "no fixed point after " ++ toString passes ++ " passes, keeping last state" }

/-- The diagnostic as it is reported at a time. -/
def reportedAt (time : Nat) (d : Diagnostic) : Diagnostic := { d with time }

/-- A diagnostic as one line for readers. -/
def line (d : Diagnostic) : String :=
  let origin := match d.elementId with
    | some id => " " ++ id ++ " (" ++ d.source.name ++ "): "
    | none => " " ++ d.source.name ++ ": "
  "[" ++ d.kind.label ++ "]" ++ origin ++ d.detail

end Diagnostic

end LiveForm

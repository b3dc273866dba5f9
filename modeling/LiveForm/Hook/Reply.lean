import LiveForm.Hook.Registry

/-!
# Asking a hook

A hook that is asked either answers with a JSON value, or does nothing because it never compiled, or
fails: it stops with a fault, or its result has no JSON form. Every failure is one diagnostic.
-/

namespace LiveForm

/-- What comes of asking a hook. -/
inductive Reply where
  | value (v : Json)
  | nothing
  | fault (e : ScriptError)

namespace Reply

def value? : Reply → Option Json
  | .value v => some v
  | _ => none

/-- The diagnostic of a reply that is a failure. -/
def diagnostics (id : String) (kind : HookKind) : Reply → List Diagnostic
  | .fault e => [.hookFault id kind e]
  | _ => []

end Reply

/-- The result of a run as JSON. -/
def Invocation.json? (i : Invocation) : Except ScriptError Json :=
  i.result.asResult?.mapError .result

namespace Engine

variable {Program : Type}

/-- A hook called with all views and its own. Nothing comes of a hook that never compiled. -/
def callHook (engine : Engine Program) (hook : Callable Program) (views : List Script.Value)
    (own : Script.Value) : Except ScriptError (Option Invocation) :=
  match hook with
  | .script program => some <$> engine.run program [.array views, own]
  | .noop => .ok none

/-- A hook asked for its result only. -/
def ask (engine : Engine Program) (hook : Callable Program) (views : List Script.Value)
    (own : Script.Value) : Reply :=
  match engine.callHook hook views own with
  | .ok none => .nothing
  | .ok (some i) =>
    match i.json? with
    | .ok v => .value v
    | .error e => .fault e
  | .error e => .fault e

end Engine

end LiveForm

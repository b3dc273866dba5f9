import LiveForm.Script.Engine
import LiveForm.Trace.Diagnostic

/-!
# The registry of compiled hooks

A hook is compiled when its source is first seen and again when it changes. The registry keeps what
became of every hook under the id of its element and its kind, with the source it came from: a script, or
nothing that could run (`Callable.noop`), which is remembered so that an error is reported once. A hook
whose source is blank is not there, and its entry goes.

* **hit** — an entry with the present source answers as it is;
* **miss** — otherwise the source is compiled, and the new entry takes the place of the old one.
-/

namespace LiveForm

/-- What became of the source of a hook. -/
inductive Callable (Program : Type) where
  | script (program : Program)
  | noop
  deriving DecidableEq

/-- The key of a hook: the id of its element, and its kind. -/
abbrev HookKey := String × HookKind

/-- A compiled hook and the source it was compiled from. -/
structure CachedHook (Program : Type) where
  source : String
  callable : Callable Program
  deriving DecidableEq

/-- The hooks of an element; those that are not configured are `none`. -/
structure ResolvedHooks (Program : Type) where
  showIf : Option (Callable Program) := none
  disableIf : Option (Callable Program) := none
  getOptions : Option (Callable Program) := none
  onValueChanged : Option (Callable Program) := none

def ResolvedHooks.get {Program : Type} (h : ResolvedHooks Program) :
    HookKind → Option (Callable Program)
  | .showIf => h.showIf
  | .disableIf => h.disableIf
  | .getOptions => h.getOptions
  | .onValueChanged => h.onValueChanged

/-- A source compiled, or the error and nothing that runs. -/
def Engine.compileHook {Program : Type} (engine : Engine Program) (parameters : List String)
    (source : String) : Callable Program × Option ScriptError :=
  match engine.compile parameters source with
  | .ok program => (.script program, none)
  | .error e => (.noop, some e)

structure Registry (Program : Type) where
  entries : List (HookKey × CachedHook Program) := []
  /-- The compilations so far, failed ones among them. -/
  compilations : Nat := 0

namespace Registry

variable {Program : Type}

/-- The number of entries. -/
def cached (r : Registry Program) : Nat := r.entries.length

def get? (r : Registry Program) (key : HookKey) : Option (CachedHook Program) :=
  r.entries.lookup key

/-- The registry without the entry of a key. -/
def erase (r : Registry Program) (key : HookKey) : Registry Program :=
  { r with entries := r.entries.filter (·.1 != key) }

/-- The registry with an entry under a key, in the place of the old one. -/
def insert (r : Registry Program) (key : HookKey) (entry : CachedHook Program) :
    Registry Program :=
  { r with entries := (key, entry) :: (r.erase key).entries }

/-- The entry of a key if it comes from this source. -/
def fresh? (r : Registry Program) (key : HookKey) (source : String) :
    Option (CachedHook Program) :=
  (r.get? key).filter (·.source == source)

/-- One hook of an element, the diagnostics of compiling it, and the registry afterwards. -/
def resolveKind (engine : Engine Program) (e : Element) (kind : HookKind) (r : Registry Program) :
    Option (Callable Program) × List Diagnostic × Registry Program :=
  let key := (e.id, kind)
  match e.hooks.source? kind with
  | none => (none, [], r.erase key)
  | some source =>
    match r.fresh? key source with
    | some entry => (some entry.callable, [], r)
    | none =>
      let (callable, error) := engine.compileHook HookKind.parameters source
      let next := { r.insert key ⟨source, callable⟩ with compilations := r.compilations + 1 }
      (some callable, error.toList.map (Diagnostic.hookCompileError e.id kind), next)

/-- The hooks of an element, in the order of `HookKind.all`. -/
def resolve (engine : Engine Program) (e : Element) (r : Registry Program) :
    ResolvedHooks Program × List Diagnostic × Registry Program :=
  let (showIf, d₁, r) := r.resolveKind engine e .showIf
  let (disableIf, d₂, r) := r.resolveKind engine e .disableIf
  let (getOptions, d₃, r) := r.resolveKind engine e .getOptions
  let (onValueChanged, d₄, r) := r.resolveKind engine e .onValueChanged
  (⟨showIf, disableIf, getOptions, onValueChanged⟩, d₁ ++ d₂ ++ d₃ ++ d₄, r)

/-- The hooks of several elements, one after the other. -/
def resolveAll (engine : Engine Program) (r : Registry Program) :
    List Element → List (ResolvedHooks Program) × List Diagnostic × Registry Program
  | [] => ([], [], r)
  | e :: rest =>
    let (hooks, ds, r) := r.resolve engine e
    let (others, more, r) := r.resolveAll engine rest
    (hooks :: others, ds ++ more, r)

/-- The registry with the entries of these elements only. -/
def retain (r : Registry Program) (es : List Element) : Registry Program :=
  { r with entries := r.entries.filter fun (key, _) => es.any (·.id == key.1) }

end Registry

end LiveForm

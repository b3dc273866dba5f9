import LiveForm.Proofs.Evaluation.Convergence
import LiveForm.Proofs.Evaluation.Removal

/-!
# Failures are contained

A hook that fails is as good as one that is not there. Let some hooks be **broken** (`Engine.Broken`): they do
not compile, or every call of them fails. Then an evaluation of the form with these hooks and one of the form
without them go through the same states, pass by pass and write by write, and come to the same end. They
differ in what they report, and there only in what concerns the broken hooks (`evaluate_contained`).
-/

namespace LiveForm

variable {Program : Type}

namespace Engine

variable (engine : Engine Program)

/-- A hook is **broken** in an evaluation if its source does not compile or every call of it fails. -/
def Broken (limit : Nat) (s : Snapshot) (e : Element) (kind : HookKind) : Prop :=
  (∃ source error, e.hooks.source? kind = some source ∧
    engine.compile HookKind.parameters source = .error error) ∨
  ∀ c ∈ Evaluation.calls engine limit s, c.key = (e.id, kind) → (c.fault? engine).isSome = true

/-! ## What does not compile -/

theorem compileErrors_withoutHooks (removed : HookKey → Bool) (e : Element) :
    engine.compileErrors (e.withoutHooks removed) =
      reportWithout removed (engine.compileErrors e) := by
  rw [compileErrors, compileErrors, reportWithout, List.filter_flatMap]
  congr 1
  funext kind
  have hsource : (e.withoutHooks removed).hooks.source? kind =
      if removed (e.id, kind) then none else e.hooks.source? kind := e.hooks.without_source? _ kind
  rw [compileError?, compileError?, hsource, Element.withoutHooks_id]
  cases e.hooks.source? kind with
  | none => split <;> rfl
  | some source =>
    have hconcerns (error : ScriptError) :
        (Diagnostic.hookCompileError e.id kind error).concerns removed = removed (e.id, kind) := rfl
    cases hremoved : removed (e.id, kind) <;>
      cases hcompile : (engine.compileHook HookKind.parameters source).2 <;>
      simp [hcompile, hconcerns, hremoved]

end Engine

namespace Evaluation

variable {engine : Engine Program} {limit : Nat} {s : Snapshot}

/-- A hook whose source does not compile is called like any other, and does not fail. -/
theorem fault?_of_compile_error {e : Element} (he : e ∈ s.elements) {kind : HookKind} {source : String}
    {error : ScriptError} (hsource : e.hooks.source? kind = some source)
    (hcompile : engine.compile HookKind.parameters source = .error error) {c : Call Program}
    (hc : c ∈ calls engine limit s) (hkey : c.key = (e.id, kind)) : c.fault? engine = none := by
  obtain ⟨e', he', hid, hhook⟩ := calls_among hc
  obtain rfl : e' = e := s.distinct.eq_of_id he' he (hid.trans (congrArg Prod.fst hkey))
  obtain rfl : c.kind = kind := congrArg Prod.snd hkey
  rw [Engine.hookOf?, hsource, Option.map_some, Engine.compiled, hcompile] at hhook
  exact Call.fault?_noop engine (Option.some.inj hhook).symm

/-- The calls of broken hooks are in vain. -/
theorem vainWithin_of_broken {broken : HookKey → Bool}
    (h : ∀ e ∈ s.elements, ∀ kind, broken (e.id, kind) = true → engine.Broken limit s e kind) :
    VainWithin engine broken (calls engine limit s) := by
  intro c hc hkey
  obtain ⟨e, he, hid, hhook⟩ := calls_among hc
  have hbroken := h e he c.kind (by rw [hid]; exact hkey)
  rcases hbroken with ⟨source, error, hsource, hcompile⟩ | hfaults
  · rw [Engine.hookOf?, hsource, Option.map_some, Engine.compiled, hcompile] at hhook
    exact .inl (Option.some.inj hhook).symm
  · exact .inr (hfaults c hc (by rw [hid]; rfl))

/-- A hook that always fails is broken in every evaluation. -/
theorem broken_of_fault {e : Element} (he : e ∈ s.elements) {kind : HookKind}
    (h : ∀ hook, engine.hookOf? e kind = some hook → ∀ views own,
      (Call.fault? engine ⟨e.id, kind, hook, views, own⟩).isSome = true) :
    engine.Broken limit s e kind := by
  right
  rintro ⟨id, kind, hook, views, own⟩ hc hkey
  obtain ⟨e', he', hid, hhook⟩ := calls_among hc
  obtain ⟨rfl, rfl⟩ := Prod.mk.inj hkey
  obtain rfl : e' = e := s.distinct.eq_of_id he' he hid
  exact h hook hhook views own

/-- What an evaluation with a new registry reports: what does not compile, the calls that fail, and that
there was no end. -/
theorem evaluate_diagnostics :
    (evaluate engine limit {} s).diagnostics =
      s.elements.flatMap engine.compileErrors ++
        (run engine (s.elements.map engine.hooksOf) limit s.elements).faults ++
        if (run engine (s.elements.map engine.hooksOf) limit s.elements).converged then []
        else [.convergenceExceeded (max limit 1)] := by
  rw [evaluate_reported, Registry.resolveAll_errors s.distinct, (Registry.sound_empty.resolveAll s.elements).1]

/-- The form without hooks whose calls are in vain is reported on as the form itself, without what concerns
these hooks. -/
theorem evaluate_diagnostics_withoutHooks {removed : HookKey → Bool}
    (h : VainWithin engine removed (calls engine limit s)) :
    (evaluate engine limit {} (s.withoutHooks removed)).diagnostics =
      reportWithout removed (evaluate engine limit {} s).diagnostics := by
  rw [evaluate_diagnostics, evaluate_diagnostics, Snapshot.withoutHooks_elements, run_withoutHooks h, List.flatMap_map]
  simp only [engine.compileErrors_withoutHooks, reportWithout_append]
  have hcompile : reportWithout removed (s.elements.flatMap engine.compileErrors) =
      s.elements.flatMap fun e => reportWithout removed (engine.compileErrors e) :=
    List.filter_flatMap
  rw [hcompile]
  congr 1
  -- that there was no end does not concern a hook
  show (if (run engine _ limit s.elements).converged then _ else _) = _
  split <;> rfl

/-- Its faults are fewer by the calls of these hooks that fail. -/
theorem evaluate_faults_withoutHooks {removed : HookKey → Bool}
    (h : VainWithin engine removed (calls engine limit s)) :
    (evaluate engine limit {} s).faults =
      (evaluate engine limit {} (s.withoutHooks removed)).faults +
        (calls engine limit s).countP (fun c => (c.fault? engine).isSome && removed c.key) := by
  have hsound : ({} : Registry Program).Sound engine := Registry.sound_empty
  rw [evaluate_faults hsound, evaluate_faults hsound, Snapshot.withoutHooks_elements,
    run_withoutHooks h]
  have hothers : reportWithout removed
      (run engine (s.elements.map engine.hooksOf) limit s.elements).faults =
        Call.diagnostics engine ((calls engine limit s).filter fun c => !removed c.key) := by
    rw [run_faults, diagnostics_filter]
    rfl
  show _ = (reportWithout removed _).length + _
  rw [hothers, run_faults, Call.length_diagnostics, Call.length_diagnostics, Nat.add_comm,
    ← List.countP_filter]
  -- every call is one of a removed hook or one of another
  exact List.countP_eq_countP_filter_add _ _ _

/-- **Failures are contained.** Let some hooks of a form be broken. Evaluated with new registries, the form
and the form without these hooks take the same passes, converge alike, change the same elements and end in
the same state, hooks apart. The form without them is reported on as the form itself, without what concerns
the broken hooks; its faults are fewer by the calls of broken hooks that fail. A hook that does not compile
adds no fault. -/
theorem evaluate_contained {broken : HookKey → Bool}
    (hbroken : ∀ e ∈ s.elements, ∀ kind, broken (e.id, kind) = true → engine.Broken limit s e kind) :
    let outcome := evaluate engine limit {} s
    let outcome' := evaluate engine limit {} (s.withoutHooks broken)
    outcome'.passes = outcome.passes ∧ outcome'.converged = outcome.converged ∧
      outcome'.changed = outcome.changed ∧
      outcome'.snapshot = outcome.snapshot.withoutHooks broken ∧
      outcome'.diagnostics = reportWithout broken outcome.diagnostics ∧
      outcome.faults = outcome'.faults +
        (calls engine limit s).countP (fun c => (c.fault? engine).isSome && broken c.key) ∧
      ∀ e ∈ s.elements, ∀ kind source error, e.hooks.source? kind = some source →
        engine.compile HookKind.parameters source = .error error →
        ∀ c ∈ calls engine limit s, c.key = (e.id, kind) → c.fault? engine = none := by
  have hvain := vainWithin_of_broken hbroken
  have hrun := run_withoutHooks hvain
  have hsound : ({} : Registry Program).Sound engine := Registry.sound_empty
  refine ⟨?_, ?_, ?_, ?_, ?_, ?_, fun e he kind source error hsource hcompile c hc hkey =>
    fault?_of_compile_error he hsource hcompile hc hkey⟩
  · rw [evaluate_passes hsound, evaluate_passes hsound, Snapshot.withoutHooks_elements, hrun]
    rfl
  · rw [evaluate_converged hsound, evaluate_converged hsound, Snapshot.withoutHooks_elements, hrun]
    rfl
  · rw [evaluate_changed hsound, evaluate_changed hsound, Snapshot.withoutHooks_elements, hrun]
    rfl
  · rw [evaluate_snapshot hsound, evaluate_snapshot hsound]
    refine Snapshot.ext ?_ rfl
    exact congrArg Progress.elements hrun
  · exact evaluate_diagnostics_withoutHooks hvain
  · exact evaluate_faults_withoutHooks hvain

end Evaluation

/-! ## A form with two broken hooks, and one that works -/

namespace Evaluation

open Script

/-- A number with a condition that always fails, and a reaction that does not compile. -/
def failing : Element :=
  { id := "a", type := .number, hooks := { showIf := some "boom()", onValueChanged := some "(" } }

/-- The script of a call of a function that is not there. -/
def boomProgram : Script.Program where
  parameters := HookKind.parameters
  body := [.expr (.call "boom" [] false ⟨1, 1⟩)]
  functions := []

theorem compile_boom : Sandbox.compile {} HookKind.parameters "boom()" = .ok boomProgram := by
  cbv

theorem run_boom (views : List Value) (own : Value) :
    ∃ error, Sandbox.run {} boomProgram [.array views, own] = .error error :=
  ⟨_, rfl⟩

theorem ask_boom (views : List Value) (own : Value) :
    ∃ error, (Sandbox.engine {}).ask (.script boomProgram) views own = .fault error := by
  obtain ⟨error, hrun⟩ := run_boom views own
  refine ⟨error, ?_⟩
  rw [Engine.ask, Engine.callHook, Sandbox.engine_run, hrun]
  rfl

theorem compile_unclosed : ∃ error, Sandbox.compile {} HookKind.parameters "(" = .error error := by
  have hread : (Script.Program.read {} HookKind.parameters "(").toOption = none := by cbv
  rw [Sandbox.compile]
  cases hresult : Script.Program.read {} HookKind.parameters "(" with
  | error error => exact ⟨_, rfl⟩
  | ok program =>
    rw [hresult] at hread
    cases hread

theorem hooksOf_failing : (Sandbox.engine {}).hooksOf failing =
    { showIf := some (.script boomProgram), onValueChanged := some .noop } := by
  obtain ⟨error, herror⟩ := compile_unclosed
  have hshow : failing.hooks.source? .showIf = some "boom()" := rfl
  have hreact : failing.hooks.source? .onValueChanged = some "(" := rfl
  have hnoop : (Sandbox.engine {}).compiled "(" = .noop := by
    rw [Engine.compiled, Sandbox.engine_compile, herror]
  rw [Engine.hooksOf, Engine.hookOf?, Engine.hookOf?, Engine.hookOf?, Engine.hookOf?, hshow, hreact,
    Option.map_some, Option.map_some, Sandbox.compiled_of_compile compile_boom, hnoop]
  rfl

/-- The hooks of `failing` are broken in whatever form they stand. -/
theorem broken_of_hooks {limit : Nat} {s : Snapshot} {e : Element} (he : e ∈ s.elements)
    (hhooks : e.hooks = failing.hooks) (kind : HookKind) : (Sandbox.engine {}).Broken limit s e kind := by
  cases kind with
  | showIf =>
    have hsource : e.hooks.source? .showIf = some "boom()" := by
      rw [hhooks]
      rfl
    refine broken_of_fault he fun hook hhook views own => ?_
    rw [Sandbox.hookOf?_of_compile hsource compile_boom, Option.some.injEq] at hhook
    obtain ⟨error, hask⟩ := ask_boom views own
    rw [← hhook]
    simp only [Call.fault?, hask, Reply.fault?, Option.isSome_some]
  | onValueChanged =>
    have hsource : e.hooks.source? .onValueChanged = some "(" := by
      rw [hhooks]
      rfl
    obtain ⟨error, herror⟩ := compile_unclosed
    refine .inl ⟨"(", error, hsource, ?_⟩
    rw [Sandbox.engine_compile, herror]
  | disableIf =>
    refine broken_of_fault he fun hook hhook => ?_
    rw [Engine.hookOf?, hhooks] at hhook
    cases hhook
  | getOptions =>
    refine broken_of_fault he fun hook hhook => ?_
    rw [Engine.hookOf?, hhooks] at hhook
    cases hhook

/-- A number whose own hooks are broken, and a text that its value is copied to. -/
def failingForm : Snapshot :=
  ⟨[{ Cascade.origin with hooks := failing.hooks }, Cascade.copy], ∅, by decide⟩

/-- The hooks of the number are broken, the one of the text works. -/
def ofOrigin (key : HookKey) : Bool := key.1 == "a"

theorem hooksOf_failingForm : failingForm.elements.map (Sandbox.engine {}).hooksOf =
    [{ showIf := some (.script boomProgram), onValueChanged := some .noop },
      { onValueChanged := some (.script Cascade.copyProgram) }] := by
  rw [← hooksOf_failing, ← Cascade.hooksOf_copy]
  rfl

theorem hooksOf_withoutHooks : (failingForm.withoutHooks ofOrigin).elements.map (Sandbox.engine {}).hooksOf =
    [{}, { onValueChanged := some (.script Cascade.copyProgram) }] := by
  rw [← Cascade.hooksOf_copy]
  rfl

/-- The value is copied in two passes, with the broken hooks and without. The condition fails in both passes, and
the reaction that does not compile adds no fault. -/
theorem evaluate_contained_failing :
    let outcome := evaluate (Sandbox.engine {}) 8 {} failingForm
    let outcome' := evaluate (Sandbox.engine {}) 8 {} (failingForm.withoutHooks ofOrigin)
    (∀ e ∈ failingForm.elements, ∀ kind, ofOrigin (e.id, kind) = true →
        (Sandbox.engine {}).Broken 8 failingForm e kind) ∧
      outcome.passes = 2 ∧ outcome.converged = true ∧ outcome.changed = ["b"] ∧ outcome.faults = 2 ∧
      outcome'.faults = 0 ∧ outcome'.snapshot = outcome.snapshot.withoutHooks ofOrigin ∧
      outcome'.diagnostics = reportWithout ofOrigin outcome.diagnostics := by
  intro outcome outcome'
  have hbroken : ∀ e ∈ failingForm.elements, ∀ kind, ofOrigin (e.id, kind) = true →
      (Sandbox.engine {}).Broken 8 failingForm e kind := by
    intro e he kind hkey
    rcases List.mem_pair.1 he with rfl | rfl
    · exact broken_of_hooks he rfl kind
    · cases hkey
  obtain ⟨hpasses, hconverged, hchanged, hsnapshot, hdiagnostics, hfaults, -⟩ := evaluate_contained hbroken
  have hsound : ({} : Registry Program).Sound (Sandbox.engine {}) := Registry.sound_empty
  have hcalls : (calls (Sandbox.engine {}) 8 failingForm).countP
      (fun c => (c.fault? (Sandbox.engine {})).isSome && ofOrigin c.key) = 2 := by
    rw [calls, hooksOf_failingForm]
    decide +kernel
  have hnone : outcome'.faults = 0 := by
    rw [evaluate_faults hsound, hooksOf_withoutHooks]
    decide +kernel
  refine ⟨hbroken, hpasses.symm.trans ?_, hconverged.symm.trans ?_, hchanged.symm.trans ?_, ?_, hnone, hsnapshot,
    hdiagnostics⟩
  · rw [evaluate_passes hsound, hooksOf_withoutHooks]
    decide +kernel
  · rw [evaluate_converged hsound, hooksOf_withoutHooks]
    decide +kernel
  · rw [evaluate_changed hsound, hooksOf_withoutHooks]
    decide +kernel
  · rw [hfaults, hnone, hcalls]

end Evaluation

end LiveForm

import LiveForm.Proofs.Evaluation.Cascade
import LiveForm.Proofs.Evaluation.Flags
import LiveForm.Script.Sandbox

/-!
# Scripts that are a literal

A script that is a single literal answers it whatever the form, within the steps that every script has. So
it is flag-blind, and as a hook that reacts to values it computes its element from nothing.
-/

namespace LiveForm.Script.Sandbox

@[simp] theorem engine_compile (limits : Limits) : (engine limits).compile = compile limits := rfl

@[simp] theorem engine_run (limits : Limits) : (engine limits).run = run limits := rfl

/-- The script of a literal. -/
def literalProgram (v : Value) (p : Position) : Program :=
  ⟨HookKind.parameters, [.expr (.literal v p)], []⟩

/-- **A literal is answered** in every form. -/
theorem run_literal {v : Value} (hv : ∀ cell, v ≠ .shared cell) (p : Position) (es : List Element)
    (e : Element) :
    run {} (literalProgram v p) [.array (elementViews es), elementView e] =
      .ok ⟨v, [("element", elementView e), ("elements", .array (elementViews es))]⟩ := by
  cases v with
  | shared cell => exact absurd rfl (hv cell)
  | _ => rfl

theorem flagBlind_literal {v : Value} (hv : ∀ cell, v ≠ .shared cell) (p : Position) :
    (engine {}).FlagBlind (.script (literalProgram v p)) := by
  intro es es' place e e' _ _ _
  simp only [Engine.ask_script, engine_run, run_literal hv]
  rfl

theorem compiled_of_compile {program : Program} {source : String}
    (hcompile : compile {} HookKind.parameters source = .ok program) :
    (engine {}).compiled source = .script program := by
  simp only [Engine.compiled, engine, hcompile]

/-- A hook whose source compiles is the script of its source. -/
theorem hookOf?_of_compile {program : Program} {source : String} {e : Element} {kind : HookKind}
    (hsource : e.hooks.source? kind = some source)
    (hcompile : compile {} HookKind.parameters source = .ok program) :
    (engine {}).hookOf? e kind = some (.script program) := by
  rw [Engine.hookOf?, hsource, Option.map_some, compiled_of_compile hcompile]

/-- A script that runs to a value and leaves its variables as they were bound computes this value. -/
theorem computes_of_run {program : Program} {v : Value} {source : String} {result : Json}
    {es : List Element} {e : Element} (hsource : e.hooks.source? .onValueChanged = some source)
    (hcompile : compile {} HookKind.parameters source = .ok program)
    (hrun : run {} program [.array (elementViews es), elementView e] =
      .ok ⟨v, [("element", elementView e), ("elements", .array (elementViews es))]⟩)
    (hunit : v ≠ .unit) (hresult : v.asResult? = .ok result) :
    (engine {}).Computes es e result := by
  refine ⟨source, program, _, hsource, hcompile, hrun, rfl, rfl, hunit, ?_⟩
  rw [Invocation.json?, hresult]
  rfl

end LiveForm.Script.Sandbox

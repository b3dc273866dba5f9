import LiveForm.Proofs.Hook.Renewal

/-!
# What a new registry reports

A new registry has seen no source, so every hook that does not compile is reported when it is first asked
for. Elements with distinct ids share no entry: each hook of a form is reported for itself and just once
(`resolveAll_errors`).
-/

namespace LiveForm

variable {Program : Type}

namespace Engine

/-- What there is to report of a hook: the error of its source, if this does not compile. -/
def compileError? (engine : Engine Program) (e : Element) (kind : HookKind) : Option Diagnostic :=
  (e.hooks.source? kind).bind fun source =>
    (engine.compileHook HookKind.parameters source).2.map (Diagnostic.hookCompileError e.id kind)

/-- What there is to report of the hooks of an element. -/
def compileErrors (engine : Engine Program) (e : Element) : List Diagnostic :=
  HookKind.all.flatMap fun kind => (engine.compileError? e kind).toList

/-- Element by element, this is what there is to report of the hooks that are written. -/
theorem filterMap_hookError? (engine : Engine Program) (es : List Element) :
    (hookSources es).filterMap engine.hookError? = es.flatMap engine.compileErrors := by
  have hslot (slot : HookSlot) : slot.written.filterMap engine.hookError? =
      (engine.compileError? slot.1 slot.2).toList := by
    rw [HookSlot.written, compileError?]
    cases slot.1.hooks.source? slot.2 with
    | none => rfl
    | some source =>
      simp only [Option.toList_some, List.map_singleton, Option.bind_some, List.filterMap_cons,
        hookError?]
      cases (engine.compileHook HookKind.parameters source).2 <;> rfl
  rw [hookSources, written, slots, List.flatMap_assoc, List.filterMap_flatMap]
  refine List.flatMap_congr fun e _ => ?_
  simp only [Element.slots, List.flatMap_map, List.filterMap_flatMap, hslot, compileErrors]

end Engine

/-- **Every hook that does not compile is reported once**, if no element has been seen before. -/
theorem Registry.resolveAll_errors {engine : Engine Program} {es : List Element} (hd : Distinct es) :
    (({} : Registry Program).resolveAll engine es).2.1 = es.flatMap engine.compileErrors := by
  obtain ⟨-, -, herrors⟩ :=
    Registry.reflects_empty.resolveAll (fun id hid => absurd hid List.not_mem_nil) hd engine
  rw [herrors, renewed_nil, engine.filterMap_hookError?]

end LiveForm

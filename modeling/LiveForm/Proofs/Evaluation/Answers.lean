import LiveForm.Proofs.Evaluation.Calls

/-!
# What an evaluation hangs on

The list of calls leaves no call out. Take an engine that compiles as another one does and gives the answers
of that one to the calls of an evaluation: whatever it answers to any other call, the evaluation goes through
the same states with it and comes to the same outcome (`evaluate_of_answers`). A call that were made and not
listed could be answered in two ways, and one of them would fail.

The answers to a list of calls are looked up piece by piece along the evaluation, for one element, one
derivation, one reaction and one pass at a time.
-/

namespace LiveForm

variable {Program : Type} {engine engine' : Engine Program}

/-- Two engines answer some calls alike. -/
def Engine.AnswersAlike (engine engine' : Engine Program) (calls : List (Call Program)) : Prop :=
  ∀ c ∈ calls, engine'.callHook c.hook c.views c.own = engine.callHook c.hook c.views c.own

theorem Engine.AnswersAlike.append {calls more : List (Call Program)} :
    engine.AnswersAlike engine' (calls ++ more) ↔
      engine.AnswersAlike engine' calls ∧ engine.AnswersAlike engine' more := List.forall_mem_append

/-! ## Deriving -/

namespace Evaluation

section

variable {views : List Script.Value} {own : Script.Value} (id : String) {hook : Option (Callable Program)}

theorem askCondition_of_answers {kind : HookKind} {default : Bool}
    (h : ∀ f ∈ hook, engine'.callHook f views own = engine.callHook f views own) :
    askCondition engine' views own id kind default hook =
      askCondition engine views own id kind default hook := by
  cases hook with
  | none => rfl
  | some f => rw [askCondition, askCondition, Engine.ask, Engine.ask, h f rfl]

theorem askOptions_of_answers
    (h : ∀ f ∈ hook, engine'.callHook f views own = engine.callHook f views own) :
    askOptions engine' views own id hook = askOptions engine views own id hook := by
  cases hook with
  | none => rfl
  | some f => rw [askOptions, askOptions, Engine.ask, Engine.ask, h f rfl]

end

theorem deriveOne_of_answers {views : List Script.Value} {e : Element} {hooks : ResolvedHooks Program}
    (h : engine.AnswersAlike engine' (callsOf views e hooks)) :
    deriveOne engine' views (Script.elementView e) e hooks =
      deriveOne engine views (Script.elementView e) e hooks := by
  have hasked (kind : HookKind) (hasks : asks e kind = true) : ∀ f ∈ hooks.get kind,
      engine'.callHook f views (Script.elementView e) = engine.callHook f views (Script.elementView e) :=
    fun f hf => h _ (mem_callsOf.2 ⟨kind, f, hasks, hf, rfl⟩)
  have hcondition (kind : HookKind) (hasks : asks e kind = true) (default : Bool) :
      askCondition engine' views (Script.elementView e) e.id kind default (hooks.get kind) =
        askCondition engine views (Script.elementView e) e.id kind default (hooks.get kind) :=
    askCondition_of_answers e.id (hasked kind hasks)
  have hshow := hcondition .showIf rfl true
  have hdisable := hcondition .disableIf
  have hoptions : asks e .getOptions = true → _ := fun hasks =>
    askOptions_of_answers e.id (hasked .getOptions hasks)
  simp only [ResolvedHooks.get, asks] at hshow hdisable hoptions
  simp only [deriveOne, hshow]
  cases hreadOnly : e.capabilities.readOnly <;> cases hcapable : e.capabilities.options <;>
    simp only [Bool.false_eq_true, if_false, if_true, hdisable, hoptions, hreadOnly, hcapable, Bool.not_false]

theorem derive_of_answers {hooks : List (ResolvedHooks Program)} {es : List Element}
    (h : engine.AnswersAlike engine' (deriveCalls hooks es)) :
    derive engine' hooks es = derive engine hooks es := by
  rw [deriveCalls] at h
  rw [derive, derive]
  generalize Script.elementViews es = views at h ⊢
  induction es generalizing hooks with
  | nil => cases hooks <;> rfl
  | cons e es ih =>
    cases hooks with
    | nil => rfl
    | cons own hooks =>
      rw [List.zip_cons_cons, List.flatMap_cons] at h
      obtain ⟨hone, hrest⟩ := Engine.AnswersAlike.append.1 h
      rw [deriveEach, deriveEach, deriveOne_of_answers hone, ih hrest]

end Evaluation

/-! ## Reacting -/

namespace Reaction

theorem callAt_of_answers {r : Reaction} {place : Nat} {hook : Callable Program}
    (h : engine.AnswersAlike engine' (r.callsAt place hook)) :
    r.callAt engine' place hook = r.callAt engine place hook := by
  cases he : r.elements[place]? with
  | none => rw [(callAt_absent (.inl he) engine' hook).1, (callAt_absent (.inl he) engine hook).1]
  | some e =>
    cases hview : r.views[place]? with
    | none => rw [(callAt_absent (.inr hview) engine' hook).1, (callAt_absent (.inr hview) engine hook).1]
    | some view =>
      rw [callsAt_eq he hview] at h
      have hanswer : engine'.callHook hook r.views view = engine.callHook hook r.views view :=
        h _ (List.mem_singleton.2 rfl)
      simp only [callAt, he, hview, hanswer]

/-- The hooks that follow are called on the same states, and so make the same calls. -/
theorem callFrom_of_answers {hooks : List (ResolvedHooks Program)} {r : Reaction} {place : Nat}
    (h : engine.AnswersAlike engine' (r.callsFrom engine place hooks)) :
    r.callFrom engine' place hooks = r.callFrom engine place hooks := by
  induction hooks generalizing place r with
  | nil => rfl
  | cons own rest ih =>
    simp only [callFrom, callsFrom] at h ⊢
    cases hhook : own.onValueChanged with
    | none =>
      simp only [hhook] at h
      exact ih h
    | some hook =>
      simp only [hhook] at h
      obtain ⟨hone, hrest⟩ := Engine.AnswersAlike.append.1 h
      show (r.callAt engine' place hook).callFrom engine' (place + 1) rest = _
      rw [callAt_of_answers hone]
      exact ih hrest

end Reaction

/-! ## Passes -/

namespace Evaluation

variable {hooks : List (ResolvedHooks Program)}

theorem pass_of_answers {p : Progress} (h : engine.AnswersAlike engine' (passCalls engine hooks p)) :
    pass engine' hooks p = pass engine hooks p := by
  obtain ⟨hderive, hreact⟩ := Engine.AnswersAlike.append.1 h
  simp only [pass, react, derive_of_answers hderive, Reaction.callFrom_of_answers hreact]

theorem iterate_of_answers {left : Nat} {p : Progress}
    (h : engine.AnswersAlike engine' (iterateCalls engine hooks left p)) :
    iterate engine' hooks left p = iterate engine hooks left p := by
  induction left generalizing p with
  | zero => rfl
  | succ left ih =>
    obtain ⟨hpass, hrest⟩ := Engine.AnswersAlike.append.1 h
    rw [iterate_succ, iterate_succ, pass_of_answers hpass]
    cases hconverged : (pass engine hooks p).converged with
    | true => rw [if_pos rfl, if_pos rfl]
    | false =>
      rw [hconverged, if_neg Bool.false_ne_true] at hrest
      rw [if_neg Bool.false_ne_true, if_neg Bool.false_ne_true, ih hrest]

theorem run_of_answers {limit : Nat} {es : List Element}
    (h : engine.AnswersAlike engine' (runCalls engine hooks limit es)) :
    run engine' hooks limit es = run engine hooks limit es := by
  obtain ⟨hiterate, hsettle⟩ := Engine.AnswersAlike.append.1 h
  rw [run, run, iterate_of_answers hiterate, settle, settle]
  cases hconverged : (iterate engine hooks (max limit 1) { elements := es }).converged with
  | true => rw [if_pos rfl, if_pos rfl]
  | false =>
    rw [settleCalls, hconverged, if_neg Bool.false_ne_true] at hsettle
    rw [if_neg Bool.false_ne_true, if_neg Bool.false_ne_true, derive_of_answers hsettle]

end Evaluation

/-! ## Evaluations -/

theorem Registry.resolve_of_compile (h : engine'.compile = engine.compile) (e : Element)
    (r : Registry Program) : r.resolve engine' e = r.resolve engine e := by
  simp only [resolve, resolveKind, Engine.compileHook, h]

theorem Registry.resolveAll_of_compile (h : engine'.compile = engine.compile) (es : List Element)
    (r : Registry Program) : r.resolveAll engine' es = r.resolveAll engine es := by
  induction es generalizing r with
  | nil => rfl
  | cons e es ih => simp only [resolveAll, resolve_of_compile h, ih]

/-- **An evaluation hangs on the answers to its calls**, and on what the sources of its hooks compile to. -/
theorem Evaluation.evaluate_of_answers {limit : Nat} {r : Registry Program} {s : Snapshot}
    (hr : r.Sound engine) (hcompile : engine'.compile = engine.compile)
    (hcalls : engine.AnswersAlike engine' (calls engine limit s)) :
    evaluate engine' limit r s = evaluate engine limit r s := by
  have hrun : run engine' (r.resolveAll engine s.elements).1 limit s.elements =
      run engine (r.resolveAll engine s.elements).1 limit s.elements := by
    rw [(hr.resolveAll s.elements).1]
    exact run_of_answers hcalls
  simp only [evaluate, Registry.resolveAll_of_compile hcompile, hrun]

end LiveForm

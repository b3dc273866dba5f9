import LiveForm.Proofs.Evaluation.Answers
import LiveForm.Proofs.Evaluation.Containment
import LiveForm.Proofs.Evaluation.Convergence
import LiveForm.Proofs.Evaluation.Rest

/-!
# The stages of an evaluation

An evaluation is a sequence of stages, each of which derives the state of all elements or lets them react: the
two in turn for every pass, and one derivation more if there is no end (`stages`). Which hooks a stage calls is
read off the form as it was at the start, and so is their order (`Stage.keys`), though what they are shown is
not. With the number of passes it is known which calls an evaluation makes.

What it reports follows from its calls. After what is said of hooks that do not compile there is one diagnostic
for every call that fails, in the order of the calls, and then one if there was no end (`evaluate_complete`).
-/

namespace LiveForm

variable {Program : Type} (engine : Engine Program) (hooks : List (ResolvedHooks Program))

/-- One half of a pass. -/
inductive Stage where
  | derive
  | react
  deriving DecidableEq

namespace Stage

/-- What a stage makes of the elements. -/
def perform : Stage → List Element → List Element
  | .derive, es => (Evaluation.derive engine hooks es).1
  | .react, es => (Evaluation.react engine hooks es []).elements

/-- The calls of a stage. -/
def calls : Stage → List Element → List (Call Program)
  | .derive, es => Evaluation.deriveCalls hooks es
  | .react, es => (Reaction.start es []).callsFrom engine 0 hooks

/-- The kinds of hooks that a stage calls, in their order. -/
def kinds : Stage → List HookKind
  | .derive => [.showIf, .disableIf, .getOptions]
  | .react => [.onValueChanged]

/-- Whether a hook of an element is called: it is there, and what it answers could matter. -/
def isCalled (e : Element) (kind : HookKind) : Bool :=
  (e.hooks.source? kind).isSome &&
    match kind with
    | .disableIf => !e.capabilities.readOnly
    | .getOptions => e.capabilities.options
    | .showIf | .onValueChanged => true

/-- The hooks that a stage calls, element by element. -/
def keys (es : List Element) (stage : Stage) : List HookKey :=
  es.flatMap fun e => (stage.kinds.filter (isCalled e)).map fun kind => (e.id, kind)

/-- What several stages make of the elements. -/
def performAll (stages : List Stage) (es : List Element) : List Element :=
  stages.foldl (fun es stage => stage.perform engine hooks es) es

/-- The calls of several stages. -/
def allCalls : List Stage → List Element → List (Call Program)
  | [], _ => []
  | stage :: rest, es => stage.calls engine hooks es ++ allCalls rest (stage.perform engine hooks es)

/-- The stages of so many passes. -/
def rounds (passes : Nat) : List Stage := (List.replicate passes [.derive, .react]).flatten

end Stage

/-- The stages of an evaluation. -/
def Evaluation.stages (passes : Nat) (converged : Bool) : List Stage :=
  Stage.rounds passes ++ if converged then [] else [.derive]

namespace Stage

variable {es : List Element} {stages more : List Stage}

theorem performAll_append :
    performAll engine hooks (stages ++ more) es =
      performAll engine hooks more (performAll engine hooks stages es) := List.foldl_append

theorem allCalls_append :
    allCalls engine hooks (stages ++ more) es =
      allCalls engine hooks stages es ++ allCalls engine hooks more (performAll engine hooks stages es) := by
  induction stages generalizing es with
  | nil => rfl
  | cons stage stages ih =>
    rw [List.cons_append, allCalls, allCalls, ih, List.append_assoc]
    rfl

theorem rounds_succ (passes : Nat) : rounds (passes + 1) = .derive :: .react :: rounds passes := rfl

theorem count_derive_rounds (passes : Nat) : (rounds passes).count .derive = passes := by
  induction passes with
  | zero => rfl
  | succ passes ih => rw [rounds_succ, List.count_cons_self, List.count_cons_of_ne (by decide), ih]

end Stage

/-! ## Passes are stages -/

namespace Reaction

/-- What is called hangs no more on the records than what is done. -/
theorem callsFrom_unrecorded (place : Nat) (r : Reaction) :
    r.unrecorded.callsFrom engine place hooks = r.callsFrom engine place hooks := by
  induction hooks generalizing place r with
  | nil => rfl
  | cons own rest ih =>
    simp only [callsFrom]
    cases own.onValueChanged with
    | none => exact ih _ r
    | some hook =>
      have hrest : (r.unrecorded.callAt engine place hook).callsFrom engine (place + 1) rest =
          (r.callAt engine place hook).callsFrom engine (place + 1) rest := by
        rw [← ih, callAt_unrecorded, ih]
      exact congrArg (r.callsAt place hook ++ ·) hrest

end Reaction

namespace Evaluation

theorem pass_stages (p : Progress) :
    (pass engine hooks p).elements = Stage.performAll engine hooks [.derive, .react] p.elements ∧
      passCalls engine hooks p = Stage.allCalls engine hooks [.derive, .react] p.elements := by
  constructor
  · exact react_elements engine hooks _ p.changed
  · rw [passCalls, ← Reaction.callsFrom_unrecorded, Stage.allCalls, Stage.allCalls, Stage.allCalls,
      List.append_nil]
    rfl

/-- **Passes are rounds of stages**: one at least if one is allowed, and as many as are allowed if they do not
converge. -/
theorem iterate_stages (left : Nat) {p : Progress} (hp : p.converged = false) :
    ∃ k, k ≤ left ∧ (0 < left → 0 < k) ∧ ((iterate engine hooks left p).converged = false → k = left) ∧
      (iterate engine hooks left p).passes = p.passes + k ∧
      (iterate engine hooks left p).elements = Stage.performAll engine hooks (Stage.rounds k) p.elements ∧
      iterateCalls engine hooks left p = Stage.allCalls engine hooks (Stage.rounds k) p.elements := by
  induction left generalizing p with
  | zero => exact ⟨0, Nat.le_refl 0, id, fun _ => rfl, rfl, rfl, rfl⟩
  | succ left ih =>
    obtain ⟨helements, hcalls⟩ := pass_stages engine hooks p
    rw [iterate_succ, iterateCalls, hcalls]
    cases hconverged : (pass engine hooks p).converged with
    | true =>
      rw [if_pos rfl, if_pos rfl, List.append_nil]
      refine ⟨1, by omega, fun _ => Nat.one_pos, fun h => ?_, rfl, helements, rfl⟩
      rw [hconverged] at h
      cases h
    | false =>
      rw [if_neg Bool.false_ne_true, if_neg Bool.false_ne_true]
      obtain ⟨k, hle, -, hcapped, hpasses, hrest, hmore⟩ := ih hconverged
      have hround : Stage.rounds (k + 1) = [.derive, .react] ++ Stage.rounds k := rfl
      refine ⟨k + 1, by omega, fun _ => Nat.succ_pos k, fun h => congrArg (· + 1) (hcapped h), ?_, ?_, ?_⟩
      · rw [hpasses, pass_passes]
        omega
      · rw [hrest, helements, hround, Stage.performAll_append]
      · rw [hmore, helements, hround, Stage.allCalls_append]

/-- **An evaluation is its stages.** -/
theorem run_stages (limit : Nat) (es : List Element) :
    let outcome := run engine hooks limit es
    (1 ≤ outcome.passes ∧ outcome.passes ≤ max limit 1 ∧
      (outcome.converged = false → outcome.passes = max limit 1)) ∧
    outcome.elements = Stage.performAll engine hooks (stages outcome.passes outcome.converged) es ∧
    runCalls engine hooks limit es = Stage.allCalls engine hooks (stages outcome.passes outcome.converged) es := by
  obtain ⟨k, hle, hpos, hcapped, hpasses, helements, hcalls⟩ :=
    iterate_stages engine hooks (max limit 1) (p := { elements := es }) rfl
  rw [Nat.zero_add] at hpasses
  simp only [run_passes, run_converged, hpasses]
  refine ⟨⟨hpos (Nat.lt_of_lt_of_le Nat.one_pos (Nat.le_max_right limit 1)), hle, hcapped⟩, ?_, ?_⟩
  · rw [run, settle, stages]
    cases hconverged : (iterate engine hooks (max limit 1) { elements := es }).converged with
    | true => rw [if_pos rfl, if_pos rfl, List.append_nil, helements]
    | false =>
      rw [if_neg Bool.false_ne_true, if_neg Bool.false_ne_true, Stage.performAll_append, ← helements]
      rfl
  · rw [runCalls, settleCalls, stages, Stage.allCalls_append, hcalls, ← helements]
    cases hconverged : (iterate engine hooks (max limit 1) { elements := es }).converged with
    | true => rfl
    | false => exact congrArg _ (List.append_nil _).symm

end Evaluation

/-! ## Which hooks are called -/

section

variable {engine} {es es' : List Element}

theorem Stage.perform_frame (stage : Stage) (es : List Element) :
    (stage.perform engine hooks es).map Element.frame = es.map Element.frame := by
  cases stage with
  | derive => exact Evaluation.derive_frame engine hooks es
  | react => exact (Evaluation.react_tracks engine hooks es []).frame

theorem Evaluation.callsOf_keys (views : List Script.Value) (e : Element) :
    (callsOf views e (engine.hooksOf e)).map Call.key =
      (Stage.derive.kinds.filter (Stage.isCalled e)).map fun kind => (e.id, kind) := by
  have hkinds (kinds : List HookKind) :
      (kinds.flatMap fun kind => (((engine.hooksOf e).get kind).map fun hook =>
        (⟨e.id, kind, hook, views, Script.elementView e⟩ : Call Program)).toList).map Call.key =
        (kinds.filter fun kind => (e.hooks.source? kind).isSome).map fun kind => (e.id, kind) := by
    induction kinds with
    | nil => rfl
    | cons kind kinds ih =>
      rw [List.flatMap_cons, List.map_append, ih, Engine.hooksOf_get, Engine.hookOf?, List.filter_cons]
      cases e.hooks.source? kind <;> rfl
  rw [callsOf, hkinds, List.filter_filter]
  -- the two lists of kinds differ in a hook that no derivation asks
  simp [HookKind.all, Stage.kinds, List.filter_cons, asks, Stage.isCalled]

/-- Which hooks are called is the same for all states of a form. -/
theorem Stage.keys_of_frame (stage : Stage) (h : es'.map Element.frame = es.map Element.frame) :
    stage.keys es' = stage.keys es := by
  have hkeys := map_eq_of_frame (fun e => (stage.kinds.filter (isCalled e)).map fun kind => (e.id, kind))
    (fun _ => rfl) h
  exact congrArg List.flatten hkeys

theorem Evaluation.deriveCalls_keys (es : List Element) :
    (deriveCalls (es.map engine.hooksOf) es).map Call.key = Stage.derive.keys es := by
  rw [deriveCalls_eq_flatMap, List.map_flatMap, Stage.keys]
  exact List.flatMap_congr fun e _ => callsOf_keys _ e

/-- The elements from a place on react in their order. -/
theorem Reaction.callsFrom_keys (rest front : List Element) {r : Reaction} (ht : r.Tracks es')
    (h : es'.map Element.frame = (front ++ rest).map Element.frame) :
    (r.callsFrom engine front.length (rest.map engine.hooksOf)).map Call.key = Stage.react.keys rest := by
  induction rest generalizing front r with
  | nil => rfl
  | cons e₀ rest ih =>
    obtain ⟨e, he, hframe, hview⟩ := ht.at_front h
    have ih {r : Reaction} := ih (front ++ [e₀]) (r := r)
    rw [List.append_assoc, List.singleton_append, List.length_append, List.length_singleton] at ih
    simp only [List.map_cons, callsFrom, Stage.keys, List.flatMap_cons] at ih ⊢
    have hreact : (engine.hooksOf e₀).onValueChanged = (e₀.hooks.source? .onValueChanged).map engine.compiled := rfl
    rw [hreact]
    cases hsource : e₀.hooks.source? .onValueChanged with
    | none =>
      rw [Option.map_none, ih ht h]
      simp [Stage.kinds, Stage.isCalled, hsource]
    | some source =>
      simp only [Option.map_some, callsAt_eq he hview, List.singleton_append, List.map_cons,
        ih (ht.callAt engine front.length _) h]
      simp [Stage.kinds, Stage.isCalled, hsource, Call.key, Element.id_eq_of_frame hframe]

theorem Stage.calls_keys (stage : Stage) (h : es'.map Element.frame = es.map Element.frame) :
    (stage.calls engine (es.map engine.hooksOf) es').map Call.key = stage.keys es := by
  rw [← stage.keys_of_frame h, ← Engine.map_hooksOf_eq engine h]
  cases stage with
  | derive => exact Evaluation.deriveCalls_keys es'
  | react => exact Reaction.callsFrom_keys es' [] (Reaction.Tracks.start es' []) rfl

theorem Stage.allCalls_keys (stages : List Stage) (h : es'.map Element.frame = es.map Element.frame) :
    (allCalls engine (es.map engine.hooksOf) stages es').map Call.key = stages.flatMap (keys es) := by
  induction stages generalizing es' with
  | nil => rfl
  | cons stage stages ih =>
    rw [allCalls, List.map_append, List.flatMap_cons, calls_keys stage h,
      ih ((stage.perform_frame _ es').trans h)]

theorem Stage.mem_keys {stage : Stage} {id : String} {kind : HookKind} (h : (id, kind) ∈ stage.keys es) :
    ∃ e ∈ es, e.id = id ∧ isCalled e kind = true := by
  obtain ⟨e, he, hmem⟩ := List.mem_flatMap.1 h
  obtain ⟨kind', hkind, heq⟩ := List.mem_map.1 hmem
  obtain ⟨rfl, rfl⟩ := Prod.mk.inj heq
  exact ⟨e, he, rfl, (List.mem_filter.1 hkind).2⟩

end

/-! ## What is reported -/

namespace Evaluation

variable {engine} {limit : Nat} {r : Registry Program} {s : Snapshot}

/-- The hooks that an evaluation calls, in the order of the calls. -/
theorem calls_keys (engine : Engine Program) (limit : Nat) (s : Snapshot) :
    let outcome := run engine (s.elements.map engine.hooksOf) limit s.elements
    (calls engine limit s).map Call.key =
      (stages outcome.passes outcome.converged).flatMap (Stage.keys s.elements) := by
  obtain ⟨-, -, hcalls⟩ := run_stages engine (s.elements.map engine.hooksOf) limit s.elements
  intro outcome
  rw [calls, hcalls, Stage.allCalls_keys _ rfl]

/-- A hook that is called is there, and its answer could matter. -/
theorem isCalled_of_mem_calls {c : Call Program} (hc : c ∈ calls engine limit s) {e : Element}
    (he : e ∈ s.elements) (hid : c.id = e.id) : Stage.isCalled e c.kind = true := by
  have hkey : c.key ∈ (calls engine limit s).map Call.key := List.mem_map_of_mem hc
  rw [calls_keys] at hkey
  obtain ⟨stage, -, hmem⟩ := List.mem_flatMap.1 hkey
  obtain ⟨e', he', hid', hcalled⟩ := Stage.mem_keys hmem
  obtain rfl : e' = e := s.distinct.eq_of_id he' he (hid'.trans hid)
  exact hcalled

/-- The condition of a display field is not called, and neither are options where there are none. -/
theorem key_ne_of_mem_calls {e : Element} (he : e ∈ s.elements) {kind : HookKind}
    (hkind : kind = .disableIf ∧ e.capabilities.readOnly = true ∨
      kind = .getOptions ∧ e.capabilities.options = false) {c : Call Program} (hc : c ∈ calls engine limit s) :
    c.key ≠ (e.id, kind) := by
  intro hkey
  obtain ⟨hid, rfl⟩ := Prod.mk.inj hkey
  have hcalled := isCalled_of_mem_calls hc he hid
  rcases hkind with ⟨hkind, hreadOnly⟩ | ⟨hkind, hoptions⟩
  · simp [Stage.isCalled, hkind, hreadOnly] at hcalled
  · simp [Stage.isCalled, hkind, hoptions] at hcalled

/-- What an evaluation reports, in order. -/
theorem evaluate_diagnostics_eq (hr : r.Sound engine) :
    (evaluate engine limit r s).diagnostics =
      (r.resolveAll engine s.elements).2.1 ++ (calls engine limit s).filterMap (Call.diagnostic? engine) ++
        if (evaluate engine limit r s).converged then [] else [.convergenceExceeded (max limit 1)] := by
  rw [evaluate_reported, (hr.resolveAll s.elements).1, run_faults, evaluate_converged hr]
  rfl

/-- The failures among what is reported are those of the calls. -/
theorem hookFaults_eq (hr : r.Sound engine) :
    ((evaluate engine limit r s).diagnostics.filter fun d => d.kind = .hookFault) =
      (calls engine limit s).filterMap (Call.diagnostic? engine) := by
  have hcompile : ((r.resolveAll engine s.elements).2.1.filter fun d => d.kind = .hookFault) = [] := by
    refine List.filter_eq_nil_iff.2 fun d hd => ?_
    rw [Registry.resolveAll_reports engine r s.elements d hd]
    decide
  have hfaults : (((calls engine limit s).filterMap (Call.diagnostic? engine)).filter fun d =>
      d.kind = .hookFault) = (calls engine limit s).filterMap (Call.diagnostic? engine) := by
    refine List.filter_eq_self.2 fun d hd => ?_
    obtain ⟨c, -, hc⟩ := List.mem_filterMap.1 hd
    obtain ⟨error, -, rfl⟩ := Option.map_eq_some_iff.1 hc
    rfl
  rw [evaluate_diagnostics_eq hr, List.filter_append, List.filter_append, hcompile, hfaults, List.nil_append]
  split
  · exact List.append_nil _
  · exact List.append_nil _

/-- What is reported of a hook that is not called is that it does not compile. -/
theorem kind_of_uncalled (hr : r.Sound engine) {id : String} {kind : HookKind}
    (h : ∀ c ∈ calls engine limit s, c.key ≠ (id, kind)) {d : Diagnostic}
    (hd : d ∈ (evaluate engine limit r s).diagnostics) (hid : d.elementId = some id)
    (hsource : d.source = .hook kind) : d.kind = .compileError := by
  rw [evaluate_diagnostics_eq hr, List.mem_append, List.mem_append] at hd
  rcases hd with (hd | hd) | hd
  · exact Registry.resolveAll_reports engine r s.elements d hd
  · obtain ⟨c, hc, hdiagnostic⟩ := List.mem_filterMap.1 hd
    obtain ⟨error, -, rfl⟩ := Option.map_eq_some_iff.1 hdiagnostic
    have hid : c.id = id := Option.some.inj hid
    have hkind : c.kind = kind := Diagnostic.Source.hook.inj hsource
    exact absurd (Prod.ext hid hkind) (h c hc)
  · split at hd
    · cases hd
    · obtain rfl := List.mem_singleton.1 hd
      cases hid

/-- **Diagnostics are complete and counted once.** An evaluation makes at least one pass and at most as many as
it may, and so many if it does not converge. It derives the form once in every pass, and once more if it does not
converge. By its stages it is known which hooks it calls, and in which order: those that are there and whose
answer could matter, so no condition of a display field, and no options where there are none. It reports what does
not compile, each call that fails, in order, and then whether there was no end; the faults it counts are the calls
that fail. It makes no calls but these: answers to other calls are of no account. -/
theorem evaluate_complete (limit : Nat) (hr : r.Sound engine) :
    let outcome := evaluate engine limit r s
    let hooks := s.elements.map engine.hooksOf
    let steps := stages outcome.passes outcome.converged
    let made := Stage.allCalls engine hooks steps s.elements
    (1 ≤ outcome.passes ∧ outcome.passes ≤ max limit 1 ∧
      (outcome.converged = false → outcome.passes = max limit 1)) ∧
    (outcome.snapshot.elements = Stage.performAll engine hooks steps s.elements ∧
      steps.count .derive = outcome.passes + if outcome.converged then 0 else 1) ∧
    made.map Call.key = steps.flatMap (Stage.keys s.elements) ∧
    (∀ e ∈ s.elements, ∀ kind,
      kind = .disableIf ∧ e.capabilities.readOnly = true ∨
        kind = .getOptions ∧ e.capabilities.options = false →
      (∀ c ∈ made, c.key ≠ (e.id, kind)) ∧
        ∀ d ∈ outcome.diagnostics, d.elementId = some e.id → d.source = .hook kind →
          d.kind = .compileError) ∧
    (outcome.diagnostics =
        (r.resolveAll engine s.elements).2.1 ++ made.filterMap (Call.diagnostic? engine) ++
          (if outcome.converged then [] else [.convergenceExceeded (max limit 1)]) ∧
      (∀ d ∈ (r.resolveAll engine s.elements).2.1, d.kind = .compileError) ∧
      outcome.faults = made.countP (fun c => (c.fault? engine).isSome) ∧
      outcome.faults = (outcome.diagnostics.filter fun d => d.kind = .hookFault).length) ∧
    ∀ engine' : Engine Program, engine'.compile = engine.compile → engine.AnswersAlike engine' made →
      evaluate engine' limit r s = outcome := by
  intro outcome hooks steps made
  obtain ⟨hpasses, helements, hcalls⟩ := run_stages engine hooks limit s.elements
  rw [← evaluate_passes hr, ← evaluate_converged hr] at hpasses helements hcalls
  have hmade : calls engine limit s = made := hcalls
  have hdiagnostics : outcome.diagnostics = _ := evaluate_diagnostics_eq hr
  have hfaults : (outcome.diagnostics.filter fun d => d.kind = .hookFault) = _ := hookFaults_eq hr
  have hcount : outcome.faults = (Call.diagnostics engine (calls engine limit s)).length :=
    (evaluate_faults hr).trans (congrArg List.length (run_faults engine hooks limit s.elements))
  have hderived : steps.count .derive = outcome.passes + if outcome.converged then 0 else 1 := by
    show (Stage.rounds outcome.passes ++ _).count .derive = _
    rw [List.count_append, Stage.count_derive_rounds]
    cases outcome.converged <;> rfl
  rw [← hmade]
  refine ⟨hpasses, ⟨?_, hderived⟩, ?_, fun e he kind hkind => ?_, ⟨hdiagnostics,
    Registry.resolveAll_reports engine r s.elements, ?_, ?_⟩, fun engine' => evaluate_of_answers hr⟩
  · rw [← helements]
    exact congrArg Snapshot.elements (evaluate_snapshot hr)
  · rw [hmade]
    exact Stage.allCalls_keys steps rfl
  · have huncalled : ∀ c ∈ calls engine limit s, c.key ≠ (e.id, kind) :=
      fun c hc => key_ne_of_mem_calls he hkind hc
    exact ⟨huncalled, fun d hd => kind_of_uncalled hr huncalled hd⟩
  · rw [hcount, Call.length_diagnostics]
  · rw [hcount, hfaults, Call.diagnostics]

/-! ## A form that is cut off -/

open Script

/-- An element with a condition that always fails, and with a value that is set by its hook. -/
def restless : Element :=
  { id := "a", type := .text, hooks := { showIf := some "boom()", onValueChanged := some "42" } }

/-- A display field with a condition that would fail as well. -/
def unasked : Element := { id := "b", type := .disabled, hooks := { disableIf := some "boom()" } }

theorem hooksOf_restless : [restless, unasked].map (Sandbox.engine {}).hooksOf =
    [{ showIf := some (.script boomProgram),
       onValueChanged := some (.script (Sandbox.literalProgram (.int 42) ⟨1, 1⟩)) },
      { disableIf := some (.script boomProgram) }] := by
  rw [← Sandbox.compiled_of_compile compile_boom, ← Sandbox.compiled_of_compile Cascade.compile_constant]
  rfl

/-- In the one pass that may run, and in the derivation after it, the condition of the first element fails. -/
theorem evaluate_complete_restless :
    let s : Snapshot := ⟨[restless, unasked], ∅, by decide⟩
    let outcome := evaluate (Sandbox.engine {}) 0 {} s
    outcome.passes = 1 ∧ outcome.converged = false ∧ outcome.faults = 2 ∧
      outcome.diagnostics.getLast? = some (.convergenceExceeded 1) := by
  intro s outcome
  have hsound : ({} : Registry Script.Program).Sound (Sandbox.engine {}) := Registry.sound_empty
  have hhooks : s.elements.map (Sandbox.engine {}).hooksOf = _ := hooksOf_restless
  obtain ⟨⟨hone, hle, -⟩, -, -, -, ⟨hdiagnostics, -, hfaults, -⟩, -⟩ :=
    evaluate_complete (s := s) 0 hsound
  have hconverged : outcome.converged = false := by
    rw [evaluate_converged hsound, hhooks]
    decide
  have hpasses : outcome.passes = 1 := Nat.le_antisymm hle hone
  refine ⟨hpasses, hconverged, hfaults.trans ?_, ?_⟩
  · rw [hpasses, hconverged, hhooks]
    rfl
  · show outcome.diagnostics.getLast? = _
    rw [hdiagnostics, hconverged]
    exact List.getLast?_concat

end Evaluation

end LiveForm

import LiveForm.Proofs.Evaluation.Calls
import LiveForm.Proofs.Evaluation.Flags

/-!
# Stale flags

A form comes in with flags and options of its own: those its definition was written with, or those of an
element that a widget has kept for a while. Hooks that react to values do look at them. But before the first
of these runs, everything is derived anew, and if the hooks for flags and options are flag-blind, what is
derived is the same whatever was there before (`derive_of_stale`). From then on two evaluations of forms that
differ in what is derived only are in the same state (`Progress.SameCourse`), down to the number of failures.
The wording of a failure is not part of that, since a script that fails may say what it has seen.
-/

namespace LiveForm

variable {Program : Type} {engine : Engine Program} {es es' : List Element}

/-! ## Forms that differ in what is derived -/

/-- What can be read off an element with nothing derived of it agrees on elements that differ in what is
derived only. -/
theorem Element.eq_of_withoutDerived {α : Type} {e e' : Element}
    (h : e.withoutDerived = e'.withoutDerived) (f : Element → α)
    (hf : ∀ e, f e.withoutDerived = f e) : f e = f e' := by
  rw [← hf e, h, hf]

/-- What agrees at every place of two forms that differ in what is derived only. -/
theorem map_eq_map_of_withoutDerived {α : Type} {f g : Element → α}
    (h : es.map Element.withoutDerived = es'.map Element.withoutDerived)
    (hfg : ∀ (place : Nat) (e e' : Element), es[place]? = some e → es'[place]? = some e' →
      e.withoutDerived = e'.withoutDerived → f e = g e') :
    es.map f = es'.map g := by
  refine List.ext_getElem? fun place => ?_
  have hplace := congrArg (·[place]?) h
  simp only [List.getElem?_map] at hplace ⊢
  cases he : es[place]? with
  | none =>
    rw [he, Option.map_none, eq_comm, Option.map_eq_none_iff] at hplace
    rw [hplace, Option.map_none, Option.map_none]
  | some e =>
    rw [he, Option.map_some, eq_comm, Option.map_eq_some_iff] at hplace
    obtain ⟨e', he', hsame⟩ := hplace
    rw [he', Option.map_some, Option.map_some, hfg place e e' he he' hsame.symm]

theorem faces_eq_of_withoutDerived
    (h : es.map Element.withoutDerived = es'.map Element.withoutDerived) :
    es.map Element.face = es'.map Element.face :=
  map_eq_map_of_withoutDerived h fun _ _ _ _ _ hsame =>
    Element.eq_of_withoutDerived hsame Element.face fun _ => rfl

/-- Whether a call fails hangs on the answer of its hook alone. -/
theorem Call.isSome_fault?_congr {c c' : Call Program} (hkind : c.kind = c'.kind)
    (hhook : c.hook = c'.hook)
    (hanswer : (engine.ask c.hook c.views c.own).value? =
      (engine.ask c'.hook c'.views c'.own).value?) :
    (c.fault? engine).isSome = (c'.fault? engine).isSome := by
  cases hnoop : c.hook with
  | noop => rw [fault?_noop engine hnoop, fault?_noop engine (hhook.symm.trans hnoop)]
  | script program =>
    -- a script always comes to something: to a value, or to a fault
    have hsomething (views : List Script.Value) (own : Script.Value) :
        engine.ask (.script program) views own ≠ .nothing := by
      simp only [Engine.ask, Engine.callHook]
      cases engine.run program [.array views, own] with
      | error error => simp
      | ok i =>
        simp only [Functor.map, Except.map]
        cases i.json? with
        | error error => simp
        | ok v => simp
    have hhere := hsomething c.views c.own
    have hthere := hsomething c'.views c'.own
    rw [← hhook] at hanswer
    simp only [fault?, ← hkind, ← hhook, hnoop] at hanswer ⊢
    generalize engine.ask (.script program) c.views c.own = reply at hanswer hhere ⊢
    generalize engine.ask (.script program) c'.views c'.own = reply' at hanswer hthere ⊢
    cases reply with
    | nothing => exact absurd rfl hhere
    | value v =>
      cases reply' with
      | value w => rw [Option.some.inj hanswer]
      | nothing => exact absurd rfl hthere
      | fault error => cases hanswer
    | fault error =>
      cases reply' with
      | value w => cases hanswer
      | nothing => exact absurd rfl hthere
      | fault error' => cases c.kind <;> rfl

namespace Evaluation

/-! ## The first derivation -/

section

variable (h : es.map Element.withoutDerived = es'.map Element.withoutDerived)
  (hblind : ∀ e ∈ es, engine.AsksFlagBlind e)

include h hblind

/-- **What is derived** by flag-blind hooks does not hang on what was derived before. -/
theorem derive_of_stale : (derive engine (es.map engine.hooksOf) es).1 =
    (derive engine (es'.map engine.hooksOf) es').1 := by
  rw [derive_eq_map, derive_eq_map]
  refine map_eq_map_of_withoutDerived h fun place e e' he he' hsame => ?_
  have hasks := hblind e (List.mem_of_getElem? he)
  have hhooks : e'.hooks = e.hooks :=
    Element.eq_of_withoutDerived hsame.symm Element.hooks fun _ => rfl
  have hcapabilities : e.capabilities = e'.capabilities :=
    Element.eq_of_withoutDerived hsame Element.capabilities fun _ => rfl
  have hanswer (kind : HookKind) (hkind : kind ≠ .onValueChanged) :=
    hasks.answer? (faces_eq_of_withoutDerived h) he he' hhooks hkind
  have hderived : derivedIn engine es e = derivedIn engine es' e' := by
    rw [derivedIn_eq, derivedIn_eq, hanswer .showIf nofun, hanswer .disableIf nofun,
      hanswer .getOptions nofun, hcapabilities]
  rw [hderived]
  exact Element.eq_of_withoutDerived hsame (withDerived · _) fun _ => rfl

/-- Nor does the number of hooks that fail. -/
theorem length_derive_of_stale : (derive engine (es.map engine.hooksOf) es).2.length =
    (derive engine (es'.map engine.hooksOf) es').2.length := by
  rw [derive_snd, derive_snd, Call.length_diagnostics, Call.length_diagnostics,
    deriveCalls_eq_flatMap, deriveCalls_eq_flatMap, List.countP_flatMap, List.countP_flatMap]
  refine congrArg List.sum (map_eq_map_of_withoutDerived h fun place e e' he he' hsame => ?_)
  have hasks := hblind e (List.mem_of_getElem? he)
  have hhooks : engine.hookOf? e' = engine.hookOf? e :=
    Element.eq_of_withoutDerived hsame.symm engine.hookOf? fun _ => rfl
  have hkinds : asks e = asks e' := Element.eq_of_withoutDerived hsame asks fun _ => rfl
  simp only [Function.comp_apply, callsOf, List.countP_flatMap, hkinds, Engine.hooksOf_get, hhooks]
  refine congrArg List.sum (List.map_congr_left fun kind hkind => ?_)
  have hask : kind ≠ .onValueChanged := by
    rintro rfl
    cases (List.mem_filter.1 hkind).2
  simp only [Function.comp_apply]
  cases hhook : engine.hookOf? e kind with
  | none => rfl
  | some hook =>
    have hanswer := hasks kind hook hask hhook es es' place e e' (faces_eq_of_withoutDerived h) he he'
    simp only [Option.map_some, Option.toList_some, List.countP_singleton]
    let call (es : List Element) (e : Element) : Call Program :=
      ⟨e.id, kind, hook, Script.elementViews es, Script.elementView e⟩
    have hfails : ((call es e).fault? engine).isSome = ((call es' e').fault? engine).isSome :=
      Call.isSome_fault?_congr rfl rfl hanswer
    rw [hfails]

end

/-! ## The passes after it -/

/-- Two states between passes that are one but for the wording of the failures so far. -/
structure Progress.SameCourse (p q : Progress) : Prop where
  elements : p.elements = q.elements
  changed : p.changed = q.changed
  passes : p.passes = q.passes
  converged : p.converged = q.converged
  faults : p.faults.length = q.faults.length

variable {hooks : List (ResolvedHooks Program)} {p q : Progress}

/-- A pass goes by what it derives, not by what was derived before. -/
theorem pass_sameCourse
    (hderived : (derive engine hooks p.elements).1 = (derive engine hooks q.elements).1)
    (hfailed : (derive engine hooks p.elements).2.length = (derive engine hooks q.elements).2.length)
    (hchanged : p.changed = q.changed) (hpasses : p.passes = q.passes)
    (hfaults : p.faults.length = q.faults.length) :
    (pass engine hooks p).SameCourse (pass engine hooks q) := by
  have hreact : react engine hooks (derive engine hooks p.elements).1 p.changed =
      react engine hooks (derive engine hooks q.elements).1 q.changed := by rw [hderived, hchanged]
  constructor
  · exact congrArg (·.elements) hreact
  · exact congrArg (·.changed) hreact
  · rw [pass_passes, pass_passes, hpasses]
  · exact congrArg (!·.dirty) hreact
  · have hlength (p : Progress) : (pass engine hooks p).faults.length =
        p.faults.length + (derive engine hooks p.elements).2.length +
          (react engine hooks (derive engine hooks p.elements).1 p.changed).diagnostics.length := by
      rw [← List.length_append, ← List.length_append]
      rfl
    rw [hlength, hlength, hreact, hfaults, hfailed]

theorem Progress.SameCourse.pass (h : p.SameCourse q) :
    (pass engine hooks p).SameCourse (pass engine hooks q) :=
  pass_sameCourse (by rw [h.elements]) (by rw [h.elements]) h.changed h.passes h.faults

theorem Progress.SameCourse.settle (h : p.SameCourse q) :
    (settle engine hooks p).SameCourse (settle engine hooks q) := by
  rw [Evaluation.settle, Evaluation.settle, h.converged]
  split
  · exact h
  · simp only [h.elements]
    refine ⟨rfl, h.changed, h.passes, rfl, ?_⟩
    simp only [List.length_append, h.faults]

theorem run_sameCourse (h : es.map Element.withoutDerived = es'.map Element.withoutDerived)
    (hblind : ∀ e ∈ es, engine.AsksFlagBlind e) (limit : Nat) :
    (run engine (es.map engine.hooksOf) limit es).SameCourse
      (run engine (es'.map engine.hooksOf) limit es') := by
  have hhooks := Engine.map_hooksOf_eq engine (frames_eq_of_withoutDerived h)
  have hderived := derive_of_stale h hblind
  have hfailed := length_derive_of_stale h hblind
  rw [← hhooks] at hderived hfailed ⊢
  obtain ⟨left, hleft⟩ : ∃ left, max limit 1 = left + 1 := ⟨max limit 1 - 1, by omega⟩
  rw [run, run, hleft]
  have hfirst := pass_sameCourse (p := { elements := es }) (q := { elements := es' })
    hderived hfailed rfl rfl rfl
  exact (iterate_related engine _ (fun _ _ h => h.converged) (fun _ _ h => h.pass) left hfirst).settle

end Evaluation

end LiveForm

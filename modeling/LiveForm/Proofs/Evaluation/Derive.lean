import LiveForm.Evaluation.Derive
import LiveForm.Proofs.Form.Frame
import LiveForm.Proofs.Hook.Cache

/-!
# Deriving, element by element

Deriving goes through the elements and their hooks side by side. With the hooks that belong to the
elements it is a map (`derive_eq_map`): what is derived of an element hangs on the views of the form it is
derived from, and on nothing that is derived on the way. It touches no other part of an element.
-/

namespace LiveForm

variable {Program : Type}

namespace Engine

/-- The hooks of an element are in its frame. -/
@[simp] theorem hooksOf_frame (engine : Engine Program) (e : Element) :
    engine.hooksOf e.frame = engine.hooksOf e := rfl

/-- States with the same frames have the same hooks. -/
theorem map_hooksOf_eq (engine : Engine Program) {es es' : List Element}
    (h : es.map Element.frame = es'.map Element.frame) :
    es.map engine.hooksOf = es'.map engine.hooksOf :=
  map_eq_of_frame engine.hooksOf engine.hooksOf_frame h

/-- **The answer** of a hook of an element in a form. There is none if the hook is not there, does not
compile, faults, or comes to a result that has no JSON form. -/
def answer? (engine : Engine Program) (es : List Element) (e : Element) (kind : HookKind) :
    Option Json := do
  let source ← e.hooks.source? kind
  let program ← (engine.compile HookKind.parameters source).toOption
  let i ← (engine.run program [.array (Script.elementViews es), Script.elementView e]).toOption
  i.result.asResult?.toOption

theorem ask_script (engine : Engine Program) (program : Program) (views : List Script.Value)
    (own : Script.Value) :
    (engine.ask (.script program) views own).value? =
      (engine.run program [.array views, own]).toOption.bind fun i =>
        i.result.asResult?.toOption := by
  simp only [ask, callHook]
  cases engine.run program [.array views, own] with
  | error error => rfl
  | ok i =>
    simp only [Functor.map, Except.map, Except.toOption, Option.bind_some, Invocation.json?,
      Except.mapError]
    cases i.result.asResult? <;> rfl

/-- Hooks that are asked give their answers. -/
theorem answer?_eq_ask (engine : Engine Program) (es : List Element) (e : Element)
    (kind : HookKind) :
    engine.answer? es e kind = (engine.hookOf? e kind).bind fun hook =>
      (engine.ask hook (Script.elementViews es) (Script.elementView e)).value? := by
  simp only [answer?, hookOf?, Option.bind_eq_bind]
  cases e.hooks.source? kind with
  | none => rfl
  | some source =>
    simp only [Option.map_some, Option.bind_some, compiled]
    cases engine.compile HookKind.parameters source with
    | error error => rfl
    | ok program => exact (ask_script engine program _ _).symm

end Engine

namespace Evaluation

@[simp] theorem withDerived_withoutDerived (e : Element) (d : Derived) :
    (withDerived e d).withoutDerived = e.withoutDerived := rfl

/-- What is derived of an element in a form. -/
def derivedIn (engine : Engine Program) (es : List Element) (e : Element) : Derived :=
  (deriveOne engine (Script.elementViews es) (Script.elementView e) e (engine.hooksOf e)).1

theorem askCondition_fst (engine : Engine Program) (views : List Script.Value)
    (own : Script.Value) (id : String) (kind : HookKind) (default : Bool)
    (hook : Option (Callable Program)) :
    (askCondition engine views own id kind default hook).1 =
      ((hook.bind fun hook => (engine.ask hook views own).value?).map Json.truthy).getD
        default := by
  cases hook <;> rfl

theorem askOptions_fst (engine : Engine Program) (views : List Script.Value) (own : Script.Value)
    (id : String) (hook : Option (Callable Program)) :
    (askOptions engine views own id hook).1 =
      (hook.bind fun hook => (engine.ask hook views own).value?).bind fun v =>
        (SelectOption.listOfJson v).toOption := by
  cases hook with
  | none => rfl
  | some hook =>
    simp only [askOptions, Option.bind_some]
    cases engine.ask hook views own with
    | value v =>
      simp only [optionsOf, Reply.value?, Option.bind_some]
      cases SelectOption.listOfJson v <;> rfl
    | nothing => rfl
    | fault error => rfl

/-- **What is derived** is what the hooks answer. Without an answer an element is shown, usable unless it
is for display only, and offers the options of its definition. -/
theorem derivedIn_eq (engine : Engine Program) (es : List Element) (e : Element) :
    derivedIn engine es e =
      { visible := ((engine.answer? es e .showIf).map Json.truthy).getD true
        disabled := e.capabilities.readOnly ||
          ((engine.answer? es e .disableIf).map Json.truthy).getD false
        options :=
          if e.capabilities.options then
            (engine.answer? es e .getOptions).bind fun v => (SelectOption.listOfJson v).toOption
          else none } := by
  simp only [derivedIn, deriveOne, Engine.answer?_eq_ask, Engine.hooksOf, askCondition_fst,
    Derived.mk.injEq, true_and]
  constructor
  · cases e.capabilities.readOnly with
    | true => rfl
    | false => simp only [Bool.false_eq_true, if_false, askCondition_fst, Bool.false_or]
  · cases e.capabilities.options with
    | false => rfl
    | true => simp only [if_true, askOptions_fst]

theorem deriveEach_eq_map (engine : Engine Program) (views : List Script.Value)
    (es : List Element) :
    (deriveEach engine views es (es.map engine.hooksOf)).1 = es.map fun e =>
      withDerived e
        (deriveOne engine views (Script.elementView e) e (engine.hooksOf e)).1 := by
  induction es with
  | nil => rfl
  | cons e es ih => simp only [List.map_cons, deriveEach, ih]

/-- **Deriving is a map.** -/
theorem derive_eq_map (engine : Engine Program) (es : List Element) :
    (derive engine (es.map engine.hooksOf) es).1 =
      es.map fun e => withDerived e (derivedIn engine es e) :=
  deriveEach_eq_map engine _ es

/-- Deriving touches nothing but what is derived, whatever the hooks. -/
theorem derive_withoutDerived (engine : Engine Program) (hooks : List (ResolvedHooks Program))
    (es : List Element) :
    (derive engine hooks es).1.map Element.withoutDerived = es.map Element.withoutDerived := by
  suffices h : ∀ views, (deriveEach engine views es hooks).1.map Element.withoutDerived =
      es.map Element.withoutDerived from h _
  intro views
  induction es generalizing hooks with
  | nil => cases hooks <;> rfl
  | cons e es ih =>
    cases hooks with
    | nil => rfl
    | cons h hooks => simp only [deriveEach, List.map_cons, ih, withDerived_withoutDerived]

theorem derive_frame (engine : Engine Program) (hooks : List (ResolvedHooks Program))
    (es : List Element) :
    (derive engine hooks es).1.map Element.frame = es.map Element.frame :=
  frames_eq_of_withoutDerived (derive_withoutDerived engine hooks es)

end Evaluation

end LiveForm

import LiveForm.Proofs.Panel.Copies

/-!
# Scripts that touch nothing

A value goes to a script and comes back as the script has seen it (`Script.Value.toJson?_ofJson`), which for an
integer above the signed range is the nearest float. Such a value is not the one that was sent, but it is the same,
and an edit is a value that is not the same. So a script that leaves what it was given alone edits nothing
(`edits_views`): its call has no writes and its action asks for no change (`untouched_comes_back`).

A hook that does so, or that never compiled, is **idle**. Calling idle hooks leaves the state of a pass as it was,
and then the next one finds the elements that it was idle on (`callFrom_of_idle`).
-/

namespace LiveForm

open Script (Value elementView elementViews)

variable {Program : Type}

/-! ## Copies that come back -/

theorem Script.Value.asResult?_ofJson (v : Json) : (Value.ofJson v).asResult? = .ok v.seen := by
  rw [asResult?, toJson?_ofJson]

section

variable {es : List Element} {e x : Element}

/-- The view of an element is no edit of any element. -/
theorem edit?_elementView (hd : Distinct es) (he : e ∈ es) (hx : x ∈ es) : e.edit? (elementView x) = none := by
  have hkeeps : (elementView x).KeepsValue x := rfl
  refine (edit?_eq_none hkeeps).2 fun hid => ?_
  obtain rfl : x = e := hd.eq_of_id hx he (Option.some.inj hid)
  exact Json.same_refl _

theorem edits_views (hd : Distinct es) (he : e ∈ es) : e.edits (elementViews es) = [] := by
  rw [Element.edits, List.filterMap_eq_nil_iff]
  intro item hitem
  obtain ⟨x, hx, rfl⟩ := List.mem_map.1 hitem
  exact edit?_elementView hd he hx

end

/-! ## Idle hooks -/

/-- A run of a hook has left its arguments as they were, and has no result. -/
structure Invocation.LeavesAlone (i : Invocation) (views : List Value) (own : Value) : Prop where
  elements : i.value? "elements" = some (.array views)
  element : i.value? "element" = some own
  result : i.result = .unit

/-- A hook does nothing to an element of a form: it never compiled, or it leaves alone what it is given. -/
def Engine.Idle (engine : Engine Program) (hook : Callable Program) (es : List Element) (e : Element) : Prop :=
  engine.callHook hook (elementViews es) (elementView e) = .ok none ∨
    ∃ i, engine.callHook hook (elementViews es) (elementView e) = .ok (some i) ∧
      i.LeavesAlone (elementViews es) (elementView e)

/-- A run that leaves alone what it is given writes nothing. -/
theorem Invocation.LeavesAlone.collectWrites {es : List Element} {own : Nat} {e : Element} {i : Invocation}
    (h : i.LeavesAlone (elementViews es) (elementView e)) (hd : Distinct es) (he : es[own]? = some e) :
    Evaluation.collectWrites es (elementViews es) own i = .ok [] := by
  have hresult : i.json? = .ok .null := by
    rw [Invocation.json?, h.result]
    rfl
  rw [Evaluation.collectWrites_untouched hd he h.elements h.element hresult, if_pos rfl]

namespace Reaction

variable {engine : Engine Program} {r : Reaction}

/-- **A call of an idle hook** leaves everything as it was. -/
theorem callAt_of_idle (hd : Distinct r.elements) (hshown : r.views = elementViews r.elements) {place : Nat}
    {hook : Callable Program} (hidle : ∀ e, r.elements[place]? = some e → engine.Idle hook r.elements e) :
    r.callAt engine place hook = r := by
  cases he : r.elements[place]? with
  | none => simp only [callAt, he]
  | some e =>
    have hview : r.views[place]? = some (elementView e) := hshown ▸ Script.getElem?_elementViews he
    rcases hidle e he with hnothing | ⟨i, hcall, halone⟩
    · exact callAt_of_nothing he hview (hshown ▸ hnothing)
    · exact callAt_of_writes he hview (hshown ▸ hcall) (hshown ▸ halone.collectWrites hd he)

/-- **Idle hooks**, one after the other, leave everything as it was. -/
theorem callFrom_of_idle (hd : Distinct r.elements) (hshown : r.views = elementViews r.elements) {place : Nat}
    {hooks : List (ResolvedHooks Program)}
    (hidle : ∀ n own hook e, hooks[n]? = some own → own.onValueChanged = some hook →
      r.elements[place + n]? = some e → engine.Idle hook r.elements e) :
    r.callFrom engine place hooks = r := by
  induction hooks generalizing place with
  | nil => rfl
  | cons own rest ih =>
    have hnext : r.callFrom engine (place + 1) rest = r := by
      refine ih fun n own' hook e hown hhook he => hidle (n + 1) own' hook e hown hhook ?_
      rw [← Nat.add_assoc, Nat.add_right_comm]
      exact he
    cases hhook : own.onValueChanged with
    | none => simp only [callFrom, hhook, hnext]
    | some hook =>
      -- after the call the state is the same, so the hooks that follow are still idle
      have hcall : r.callAt engine place hook = r :=
        callAt_of_idle hd hshown fun e he => hidle 0 own hook e rfl hhook he
      simp only [callFrom, hhook, hcall, hnext]

end Reaction

/-- **Scripts that touch nothing change nothing.** Any value that is given to a script comes back as the script
has seen it, which is the same value, and is the very one just if its integers are in the signed range. So does the
value in the view of an element, and its id is that of the element.

A hook of any element of a form that leaves its two arguments as they were, and has no
result, makes no write, and there is no fault. A pass over a form in which every hook that is called does so ends in
the state it started in: nothing is written, noted as changed or reported. And the outcome of an action that leaves
the array of elements as it was has no changes. -/
theorem untouched_comes_back :
    (∀ v : Json, (Value.ofJson v).asResult? = .ok v.seen ∧ v.same v.seen = true ∧
      (v.seen = v ↔ v.Each Number.Signed)) ∧
    (∀ e : Element, (elementView e).viewId? = some e.id ∧ (elementView e).viewValue? = some e.value.seen) ∧
    ∀ s : Snapshot,
      let es := s.elements
      (∀ own e i, es[own]? = some e → i.LeavesAlone (elementViews es) (elementView e) →
        Evaluation.collectWrites es (elementViews es) own i = .ok []) ∧
      (∀ (engine : Engine Program) (hooks : List (ResolvedHooks Program)) (changed : List String),
        (∀ (place : Nat) own hook e, hooks[place]? = some own → own.onValueChanged = some hook →
          es[place]? = some e → engine.Idle hook es e) →
        Evaluation.react engine hooks es changed = Reaction.start es changed) ∧
      ∀ {Code : Type} (runner : ActionEngine Code) (x : Exchange) (r : ActionRequest) (o : ActionOutcome),
        r.elements = es → r.Leaves runner x (elementViews es) → (r.runBy runner x).1 = .ok o →
          o.changes = [] := by
  refine ⟨fun v => ⟨Value.asResult?_ofJson v, v.same_seen, Json.seen_eq_self⟩,
    fun e => ⟨rfl, Script.viewValue?_elementView_eq e⟩, fun s => ⟨?_, ?_, ?_⟩⟩
  · intro own e i he halone
    exact halone.collectWrites s.distinct he
  · intro engine hooks changed hidle
    refine Reaction.callFrom_of_idle s.distinct rfl fun n own hook e hown hhook he => hidle n own hook e hown hhook ?_
    rw [← Nat.zero_add n]
    exact he
  · intro Code runner x r o helements hleaves hrun
    rw [hleaves.changes hrun, helements]
    exact ActionRequest.changes_eq_nil s.distinct fun e he => edits_views s.distinct he

/-! ## A hook whose condition does not hold -/

section

open Script

/-- The greatest integer does not come back as it was, but as the nearest float. -/
theorem greatest_not_back :
    let e : Element := { id := "a", type := .number, value := .greatest }
    (Value.ofJson .greatest).asResult? = .ok (.ofFloat 18446744073709551616) ∧
      (elementView e).viewValue? = some (.ofFloat 18446744073709551616) ∧
      Json.ofFloat 18446744073709551616 ≠ .greatest := by
  intro e
  obtain ⟨hseen, hother⟩ := Json.seen_greatest
  rw [Value.asResult?_ofJson, viewValue?_elementView_eq, ← hseen]
  exact ⟨rfl, rfl, hother⟩

/-- An element that is reset while it is disabled. -/
def resetting : Element :=
  { id := "a", type := .text, value := .arr [.null, .greatest]
    hooks := { onValueChanged := some "if element.disabled { element.value = 0 }" } }

/-- The script of `resetting`. -/
def resettingProgram : Script.Program where
  parameters := HookKind.parameters
  body := [.branch (.chain (.variable "element" false ⟨1, 4⟩) [.property "disabled" false ⟨1, 11⟩ ⟨1, 12⟩])
    [.assignOwn 23 "value" (.int 0)] [] ⟨1, 21⟩ ⟨1, 1⟩ ⟨1, 1⟩]
  functions := []

/-- A button that counts the elements. -/
def counting : Element := { id := "b", type := .button, action := some "elements.len" }

/-- The script of `counting`. -/
def countingProgram : Script.Program where
  parameters := actionParameters
  body := [.expr (.chain (.variable "elements" false ⟨1, 1⟩) [.property "len" false ⟨1, 9⟩ ⟨1, 10⟩])]
  functions := []

def countingRequest : ActionRequest := ⟨some "b", "elements.len", [resetting, counting], ∅⟩

/-- What the hook of `resetting` leaves. -/
def resettingRun : Invocation :=
  ⟨.unit, [("element", elementView resetting), ("elements", .array (elementViews [resetting, counting]))]⟩

theorem compile_resetting :
    Sandbox.compile {} HookKind.parameters "if element.disabled { element.value = 0 }" = .ok resettingProgram := by
  cbv

/-- The condition does not hold, whatever the value is. -/
theorem run_resetting (w : Json) :
    let e := { resetting with value := w }
    Sandbox.run {} resettingProgram [.array (elementViews [e, counting]), elementView e] =
      .ok ⟨.unit, [("element", elementView e), ("elements", .array (elementViews [e, counting]))]⟩ :=
  rfl

/-- What the action of `counting` leaves where the first element has this value. -/
def countingRun (w : Json) : Invocation :=
  ⟨.int 2, [("initial", .map []), ("elements", .array (elementViews [{ resetting with value := w }, counting])),
    ("code", .text "elements.len")]⟩

theorem compile_counting :
    (Sandbox.actionEngine {}).compile actionParameters countingRequest.code = .ok countingProgram := by
  rw [Sandbox.actionEngine_compile]
  cbv

/-- The number of elements does not depend on a value. -/
theorem run_counting (w : Json) :
    let es := [{ resetting with value := w }, counting]
    (Sandbox.actionEngine {}).runIn {} countingProgram
        (ActionRequest.mk (some "b") "elements.len" es ∅).arguments = (.ok (countingRun w), {}) :=
  rfl

theorem countingRequest_leaves :
    countingRequest.Leaves (Sandbox.actionEngine {}) {} (elementViews [resetting, counting]) :=
  ⟨countingProgram, countingRun resetting.value, {}, compile_counting, run_counting _, rfl⟩

theorem countingRequest_run :
    ∃ o : ActionOutcome, (countingRequest.run {} {}).1 = .ok o ∧ o.value = .int 2 := by
  have hrun : (Sandbox.actionEngine {}).runIn {} countingProgram countingRequest.arguments =
      (.ok (countingRun resetting.value), {}) := run_counting _
  rw [ActionRequest.run, ActionRequest.runBy, compile_counting]
  simp only [hrun]
  exact ⟨_, rfl, rfl⟩

theorem resettingRun_leavesAlone :
    resettingRun.LeavesAlone (elementViews [resetting, counting]) (elementView resetting) :=
  ⟨rfl, rfl, rfl⟩

theorem resetting_idle {hook : Callable Script.Program}
    (hhook : (Sandbox.engine {}).hookOf? resetting .onValueChanged = some hook) :
    (Sandbox.engine {}).Idle hook [resetting, counting] resetting := by
  have hcompiled : (Sandbox.engine {}).hookOf? resetting .onValueChanged = some (.script resettingProgram) :=
    Sandbox.hookOf?_of_compile rfl compile_resetting
  obtain rfl : .script resettingProgram = hook := Option.some.inj (hcompiled.symm.trans hhook)
  refine .inr ⟨resettingRun, ?_, resettingRun_leavesAlone⟩
  have hrun := run_resetting resetting.value
  simp only [Engine.callHook, Sandbox.engine]
  exact congrArg (some <$> ·) hrun

/-- A pass over the form with its greatest integer, and a press of its button. -/
theorem untouched_comes_back_resetting :
    let s : Snapshot := ⟨[resetting, counting], ∅, by decide⟩
    let es := s.elements
    let engine := Sandbox.engine {}
    (Value.ofJson resetting.value).asResult? = .ok resetting.value.seen ∧
      es[0]? = some resetting ∧ resettingRun.LeavesAlone (elementViews es) (elementView resetting) ∧
      Evaluation.collectWrites es (elementViews es) 0 resettingRun = .ok [] ∧
      Evaluation.react engine (es.map engine.hooksOf) es [] = Reaction.start es [] ∧
      countingRequest.Leaves (Sandbox.actionEngine {}) {} (elementViews es) ∧
      ∃ o : ActionOutcome, (countingRequest.run {} {}).1 = .ok o ∧ o.value = .int 2 ∧ o.changes = [] := by
  intro s es engine
  obtain ⟨hback, -, hform⟩ := @untouched_comes_back Script.Program
  obtain ⟨hcall, hpass, haction⟩ := hform s
  obtain ⟨o, hrun, hvalue⟩ := countingRequest_run
  refine ⟨(hback _).1, rfl, resettingRun_leavesAlone, hcall 0 resetting _ rfl resettingRun_leavesAlone,
    hpass engine _ [] ?_, countingRequest_leaves, o, hrun, hvalue,
    haction (Sandbox.actionEngine {}) {} countingRequest o rfl countingRequest_leaves hrun⟩
  intro place own hook e hown hhook he
  match place with
  | 0 =>
    obtain rfl := Option.some.inj he
    obtain rfl := Option.some.inj hown
    exact resetting_idle hhook
  | 1 =>
    -- a button without hooks
    obtain rfl := Option.some.inj hown
    cases hhook
  | place + 2 => cases he

end

end LiveForm

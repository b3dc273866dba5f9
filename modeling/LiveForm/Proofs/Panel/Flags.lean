import LiveForm.Proofs.Panel.Session
import LiveForm.Proofs.Script.FirstValue

/-!
# Published flags fit published values

A pass derives the flags first and writes values afterwards, so at the end of a pass flags and values need
not fit each other. At the end of an evaluation they do: what happened last is a derivation
(`Evaluation.run_eq_derive`), and of the elements it was derived from the published ones differ in their
flags and options only. So if the hooks that are asked are flag-blind, asking them again about the published
form gives what is published (`published_flags`). Whether the evaluation converged plays no part.
-/

namespace LiveForm

variable {Program : Type}

namespace Panel

variable {p : Panel Program}

/-- What is published has been derived from some state with the same frames. -/
theorem publish_eq_derive (hp : p.Valid) (next : Snapshot) :
    ∃ es, (p.publish next).panel.published.elements =
      (Evaluation.derive p.engine (es.map p.engine.hooksOf) es).1 := by
  rw [publish_published hp.sound]
  obtain ⟨es, hframe, hrun⟩ := Evaluation.run_eq_derive p.engine
    (next.elements.map p.engine.hooksOf) p.limit next.elements
  refine ⟨es, ?_⟩
  rw [Engine.map_hooksOf_eq p.engine hframe]
  exact hrun

/-- **Published flags fit published values.** After any session with a panel of a form, under any limit
of passes: if the hooks of the published elements that are asked for flags and options are flag-blind,
every published element is shown, disabled and has options just as these hooks answer in the published
form. -/
theorem published_flags {engine : Engine Program} {limit : Nat} {d : Definition} {u : Update Program}
    (h : ofDefinition? engine limit d = .ok u) (ops : List Operation)
    (hblind : ∀ e ∈ (u.panel.after ops).published.elements, engine.AsksFlagBlind e) :
    ∀ e ∈ (u.panel.after ops).published.elements,
      let answer := engine.answer? (u.panel.after ops).published.elements e
      e.visible = ((answer .showIf).map Json.truthy).getD true ∧
        e.disabled = (e.capabilities.readOnly || ((answer .disableIf).map Json.truthy).getD false) ∧
        e.dynamicOptions =
          if e.capabilities.options then
            (answer .getOptions).bind fun v => (SelectOption.listOfJson v).toOption
          else none := by
  obtain ⟨s, rfl⟩ := ofDefinition?_eq_ok h
  have hvalid := ofSnapshot_valid engine limit d.title s
  -- whatever is published has been derived, and the engine stays
  obtain ⟨⟨es, hes⟩, -⟩ := after_induction
    (P := fun q => ∃ es, q.published.elements =
      (Evaluation.derive q.engine (es.map q.engine.hooksOf) es).1)
    (fun q next hq _ _ => publish_eq_derive hq next) hvalid
    (publish_eq_derive ⟨Registry.sound_empty⟩ s) ops
  rw [after_engine hvalid ops] at hes
  exact fun e he => Evaluation.answer?_derive hes he (hblind e he)

/-! ## A hidden element -/

open Script

/-- An element that is never shown. -/
def hidden : Element := { id := "a", type := .text, hooks := { showIf := some "false" } }

theorem compile_hidden : Sandbox.compile {} HookKind.parameters "false" =
    .ok (Sandbox.literalProgram (.bool false) ⟨1, 1⟩) := by
  cbv

section

variable {e : Element} (h : e.hooks = hidden.hooks)

include h

theorem asksFlagBlind_hidden : (Sandbox.engine {}).AsksFlagBlind e := by
  intro kind hook hkind hhook
  rw [Engine.hookOf?, h] at hhook
  cases kind with
  | showIf =>
    obtain rfl : (Sandbox.engine {}).compiled "false" = hook := Option.some.inj hhook
    rw [Sandbox.compiled_of_compile compile_hidden]
    have hshared : ∀ cell, Value.bool false ≠ .shared cell := by simp
    exact Sandbox.flagBlind_literal hshared _
  | disableIf => cases hhook
  | getOptions => cases hhook
  | onValueChanged => exact absurd rfl hkind

end

/-! ## A form that is cut off -/

theorem ofDefinition?_countdown (limit : Nat) (value : Json) : ∃ u : Update Script.Program,
    ofDefinition? (Sandbox.engine {}) limit { elements := (countdown value).elements } = .ok u :=
  ⟨_, ofDefinition?_eq_ok_iff.2 ⟨(countdown value).distinct, rfl⟩⟩

section

variable {limit : Nat} {value : Json} {u : Update Script.Program}
  (hu : ofDefinition? (Sandbox.engine {}) limit { elements := (countdown value).elements } = .ok u)

include hu

/-- An edit of the slider is evaluated from where the first evaluation has left the form. -/
theorem setValue_countdown (edited : Json) :
    let left := (Evaluation.run (Sandbox.engine {}) countdownHooks limit (countdown value).elements).elements
    let next := left.map fun e => if e.id == "a" then Snapshot.withValueOf e edited else e
    let run := Evaluation.run (Sandbox.engine {}) countdownHooks limit next
    let p := u.panel.after [.setValue "a" edited]
    p.published.elements = run.elements ∧ p.stats.converged = run.converged := by
  intro left next run p
  obtain ⟨hvalid, hengine, hlimit, hpublished, -⟩ := ofDefinition?_panel hu
  rw [hooksOf_countdown rfl] at hpublished
  have hleft : u.panel.published.elements = left := hpublished
  have hframe : left.map Element.frame = (countdown value).elements.map Element.frame :=
    Evaluation.run_frame (Sandbox.engine {}) countdownHooks limit (countdown value).elements
  have hids : "a" ∈ u.panel.published.ids := by
    rw [Snapshot.ids, hleft, ids_eq_of_frame hframe]
    exact List.mem_cons_self
  have hnext : (u.panel.published.assignValue "a" edited).elements = next := by
    rw [Snapshot.assignValue_elements, hleft]
  have hhooks : next.map (Sandbox.engine {}).hooksOf = countdownHooks := by
    rw [← hnext, Engine.map_hooksOf_eq _ (u.panel.published.assignValue_frame "a" edited), hleft]
    exact hooksOf_countdown hframe
  obtain ⟨hafter, hconverged⟩ := after_setValue hvalid hids edited
  rw [hengine, hlimit, hnext, hhooks] at hconverged
  refine ⟨?_, hconverged⟩
  rw [hafter, Evaluation.settled_elements, hengine, hlimit, hnext, hhooks]

end

/-- An edit of the slider is evaluated in one pass, which still shows the text and then moves the slider to zero. The
pass is the last one allowed, and yet what is published does not show the text. -/
theorem published_flags_countdown :
    ∃ u, ofDefinition? (Sandbox.engine {}) 1 { elements := (countdown (.int 2)).elements } = .ok u ∧
      let p := u.panel.after [.setValue "a" (.int 1)]
      p.stats.converged = false ∧ p.published.elements = [falling (.int 0), { lit with visible := false }] ∧
        (∀ e ∈ p.published.elements, (Sandbox.engine {}).AsksFlagBlind e) ∧
        ∀ e ∈ p.published.elements, e.visible =
          (((Sandbox.engine {}).answer? p.published.elements e .showIf).map Json.truthy).getD true := by
  obtain ⟨u, hu⟩ := ofDefinition?_countdown 1 (.int 2)
  obtain ⟨hpublished, hconverged⟩ := setValue_countdown hu (.int 1)
  have helements : (u.panel.after [.setValue "a" (.int 1)]).published.elements =
      [falling (.int 0), { lit with visible := false }] := by
    rw [hpublished]
    decide +kernel
  have hblind : ∀ e ∈ (u.panel.after [.setValue "a" (.int 1)]).published.elements,
      (Sandbox.engine {}).AsksFlagBlind e := by
    rw [helements]
    exact asksFlagBlind_countdown (.int 0) rfl
  refine ⟨u, hu, hconverged.trans (by decide +kernel), helements, hblind, fun e he => ?_⟩
  exact (published_flags hu [.setValue "a" (.int 1)] hblind e he).1

end Panel

end LiveForm

import LiveForm.Action.Run
import LiveForm.Proofs.Panel.Session

/-!
# The check of actions foretells their runs

Actions can be compiled without being run. The check passes over blank sources, a run does not: it takes a
missing action for an empty script. Both come to the same, as a blank source always compiles
(`Sandbox.compile_blank`): it has no tokens but the end. So the check reports a button just if its run would
fail to compile, and with the same error (`actionFlaw?_eq_runFlaw?`).

The check does not ask whether an element is a button, a request does. What the check says of other elements is
therefore about actions that are never run.
-/

namespace LiveForm

/-! ## Blank scripts -/

namespace Script

theorem Cursor.advance_rest (c : Cursor) : c.advance.rest = c.rest.tail := by
  rw [Cursor.advance]
  split <;> simp_all

/-- Blanks make no tokens. -/
theorem Lexer.run_blank (limit fuel : Nat) (braces : List Nat) (signed : Bool) {c : Cursor}
    (h : c.rest.all Text.isBlank = true) :
    ∃ p, Lexer.run limit fuel braces signed c = [⟨.finish, p⟩] := by
  induction fuel generalizing c with
  | zero => exact ⟨_, rfl⟩
  | succ fuel ih =>
    cases hrest : c.rest with
    | nil => exact ⟨c.position, by simp only [Lexer.run, hrest]⟩
    | cons d rest =>
      rw [hrest, List.all_cons, Bool.and_eq_true] at h
      obtain ⟨p, hp⟩ := ih (c := c.advance) (by rw [Cursor.advance_rest, hrest]; exact h.2)
      exact ⟨p, by simp only [Lexer.run, hrest, h.1, if_true, hp]⟩

/-- **A blank source compiles**, under every limit. -/
theorem Sandbox.compile_blank (limits : Limits) (parameters : List String) {source : String}
    (h : Text.isBlankText source = true) :
    ∃ program, Sandbox.compile limits parameters source = .ok program := by
  obtain ⟨p, hp⟩ : ∃ p, tokens limits.textSize source = [⟨.finish, p⟩] :=
    Lexer.run_blank limits.textSize _ [] true h
  have hread : Program.read limits parameters source = .ok ⟨parameters, [], []⟩ := by
    simp only [Program.read, hp]
    rfl
  exact ⟨_, by rw [Sandbox.compile, hread]⟩

end Script

/-! ## Runs that do not compile -/

open Script (Sandbox.compile Sandbox.engine Sandbox.compile_blank)

/-- A run fails to compile just if its code does. -/
theorem ActionRequest.run_eq_compile {limits : Script.Limits} {x : Exchange} {r : ActionRequest}
    {error : ScriptError} : (r.run limits x).1 = .error (.compile error) ↔
      Sandbox.compile limits actionParameters r.code = .error error := by
  cases hcompile : Sandbox.compile limits actionParameters r.code with
  | error e => simp [run, runBy, hcompile]
  | ok program =>
    refine iff_of_false (fun h => ?_) nofun
    simp only [run, runBy, Script.Sandbox.actionEngine_compile, hcompile,
      Script.Sandbox.actionEngine_runIn] at h
    cases hrun : Script.Sandbox.runIn limits Exchange.function? x program r.arguments with
    | mk ended x' =>
      rw [hrun] at h
      cases ended with
      | error e => cases h
      | ok i =>
        -- what has run may fail at its end, but it has been compiled
        have hend : r.outcome i x' = .error (.compile error) := h
        rw [outcome] at hend
        split at hend <;> cases hend

namespace Panel

variable {Program : Type} {p : Panel Program}

/-- The error of a run of the action of an element, if the run is possible and does not compile. -/
def runFlaw? (p : Panel Program) (limits : Script.Limits) (x : Exchange) (id : String) : Option ScriptError :=
  match p.actionRequest id with
  | .error _ => none
  | .ok r =>
    match (r.run limits x).1 with
    | .error (.compile error) => some error
    | _ => none

theorem runFlaw?_eq_some {limits : Script.Limits} {x : Exchange} {id : String} {error : ScriptError} :
    p.runFlaw? limits x id = some error ↔
      ∃ r, p.actionRequest id = .ok r ∧ (r.run limits x).1 = .error (.compile error) := by
  rw [runFlaw?]
  cases p.actionRequest id with
  | error e => exact iff_of_false nofun nofun
  | ok r =>
    simp only [Except.ok.injEq, exists_eq_left']
    split
    · next found hrun => simp [hrun]
    · next hother =>
      refine iff_of_false nofun fun h => hother error h

/-- The request of an element that is there. -/
theorem actionRequest_of_mem {e : Element} (he : e ∈ p.published.elements) :
    p.actionRequest e.id = if e.capabilities.action then
      .ok ⟨some e.id, e.action.getD "", p.published.elements, p.published.initial⟩
      else .error (.notAButton e.id) := by
  rw [actionRequest, Snapshot.get?_of_mem he]

/-- What is no button is not run. -/
theorem runFlaw?_of_no_button {e : Element}
    (he : e ∈ p.published.elements) (hbutton : e.capabilities.action = false) (limits : Script.Limits)
    (x : Exchange) : p.runFlaw? limits x e.id = none := by
  rw [runFlaw?, actionRequest_of_mem he, hbutton]
  rfl

/-- An action that is missing or blank compiles. -/
theorem compile_of_no_source (limits : Script.Limits) {e : Element} (h : actionSource? e = none) :
    ∃ program, Sandbox.compile limits actionParameters (e.action.getD "") = .ok program := by
  refine Sandbox.compile_blank limits actionParameters ?_
  rw [actionSource?, Option.filter_eq_none_iff] at h
  cases haction : e.action with
  | none => rfl
  | some source => simpa using h source haction

/-- A source that is not blank is the code of the action. -/
theorem getD_of_actionSource? {e : Element} {source : String} (h : actionSource? e = some source) :
    e.action.getD "" = source := by
  rw [actionSource?, Option.filter_eq_some_iff] at h
  rw [h.1, Option.getD_some]

/-- **The check says of a button** what its run would come to. -/
theorem actionFlaw?_eq_runFlaw? {p : Panel Script.Program} {limits : Script.Limits}
    (hengine : p.engine = Sandbox.engine limits) {e : Element}
    (he : e ∈ p.published.elements) (hbutton : e.capabilities.action = true) (x : Exchange) :
    actionFlaw? p.engine e = (p.runFlaw? limits x e.id).map (.actionCompileError e.id) := by
  have hrun : ∀ error, p.runFlaw? limits x e.id = some error ↔
      Sandbox.compile limits actionParameters (e.action.getD "") = .error error := by
    intro error
    rw [runFlaw?_eq_some, actionRequest_of_mem he, if_pos hbutton]
    simp only [Except.ok.injEq, exists_eq_left', ActionRequest.run_eq_compile]
  cases hsource : actionSource? e with
  | none =>
    obtain ⟨program, hcompile⟩ := compile_of_no_source limits hsource
    have hnone : p.runFlaw? limits x e.id = none := by
      refine Option.eq_none_iff_forall_ne_some.2 fun error h => ?_
      rw [hrun, hcompile] at h
      cases h
    rw [actionFlaw?, hsource, hnone]
    rfl
  | some source =>
    rw [getD_of_actionSource? hsource] at hrun
    have hcompile : p.engine.compile actionParameters source =
        Sandbox.compile limits actionParameters source := by rw [hengine]; rfl
    rw [actionFlaw?, hsource, Option.map_some, hcompile]
    cases hresult : Sandbox.compile limits actionParameters source with
    | error error => rw [(hrun error).2 hresult, Option.map_some]
    | ok program =>
      have hnone : p.runFlaw? limits x e.id = none := by
        refine Option.eq_none_iff_forall_ne_some.2 fun error h => ?_
        rw [hrun, hresult] at h
        cases h
      rw [hnone, Option.map_none]

/-- Without a source there is nothing to report. -/
theorem actionFlaw?_of_no_source (engine : Engine Program) {e : Element} (h : actionSource? e = none) :
    actionFlaw? engine e = none := by
  rw [actionFlaw?, h]
  rfl

theorem map_filterMap_report {α : Type} (f : α → Option ScriptError) (id : α → String) (l : List α) :
    (l.filterMap fun a => (f a).map (.actionCompileError (id a))).map Diagnostic.elementId =
      (l.filter fun a => (f a).isSome).map fun a => some (id a) := by
  induction l with
  | nil => rfl
  | cons a l ih =>
    cases hfa : f a with
    | none => simp [hfa, ih]
    | some error => simp [hfa, ih, Diagnostic.actionCompileError]

/-- **The check foretells which runs fail to compile.** After any session it reports the elements in declared order:
a button with the compile error that its run ends with, and no report if the run does not end so; an element that is
no button is never run, and it is reported if it has an action that does not compile. So where only buttons have
actions, the elements that are reported are those whose run fails to compile, each once. -/
theorem check_foretells_runs (limits : Script.Limits) (limit : Nat) (d : Definition)
    {u : Update Script.Program} (h : ofDefinition? (Sandbox.engine limits) limit d = .ok u)
    (ops : List Operation) (x : Exchange) :
    let p := u.panel.after ops
    p.checkActions = (p.published.elements.filterMap fun e =>
        if e.capabilities.action then (p.runFlaw? limits x e.id).map (.actionCompileError e.id)
        else actionFlaw? p.engine e) ∧
      (∀ id error, p.runFlaw? limits x id = some error ↔
        ∃ r, p.actionRequest id = .ok r ∧ (r.run limits x).1 = .error (.compile error)) ∧
      (∀ e ∈ p.published.elements, e.capabilities.action = false → p.runFlaw? limits x e.id = none) ∧
      ((∀ e ∈ p.published.elements, e.capabilities.action = false → actionSource? e = none) →
        (p.checkActions = p.published.elements.filterMap fun e =>
          (p.runFlaw? limits x e.id).map (.actionCompileError e.id)) ∧
        p.checkActions.map (·.elementId) =
          (p.published.elements.filter fun e => (p.runFlaw? limits x e.id).isSome).map (some ·.id)) := by
  intro p
  obtain ⟨s, hs, rfl⟩ := ofDefinition?_eq_ok h
  have hvalid := ofSnapshot_valid (Sandbox.engine limits) limit d.title s
  have hengine : p.engine = Sandbox.engine limits := after_engine hvalid ops
  have hreports : p.checkActions = p.published.elements.filterMap fun e =>
      if e.capabilities.action then (p.runFlaw? limits x e.id).map (.actionCompileError e.id)
      else actionFlaw? p.engine e := by
    refine List.filterMap_congr fun e he => ?_
    by_cases hbutton : e.capabilities.action = true
    · rw [if_pos hbutton, actionFlaw?_eq_runFlaw? hengine he hbutton]
    · rw [if_neg hbutton]
  refine ⟨hreports, fun _ _ => runFlaw?_eq_some, fun e he hno => runFlaw?_of_no_button he hno limits x, ?_⟩
  intro honly
  have hbuttons : p.checkActions = p.published.elements.filterMap fun e =>
      (p.runFlaw? limits x e.id).map (.actionCompileError e.id) := by
    rw [hreports]
    refine List.filterMap_congr fun e he => ?_
    cases hbutton : e.capabilities.action with
    | true => rfl
    | false =>
      rw [runFlaw?_of_no_button he hbutton, actionFlaw?_of_no_source _ (honly e he hbutton)]
      rfl
  exact ⟨hbuttons, by rw [hbuttons, map_filterMap_report]⟩

/-! ## Broken actions -/

/-- A button whose action does not compile. -/
def broken : Element := { id := "b", type := .button, action := some "let" }

/-- A button whose action is blank. -/
def idle : Element := { id := "c", type := .button, action := some " " }

/-- An element that is no button and has an action that does not compile. -/
def stray : Element := { id := "t", type := .text, action := some "let" }

/-- What is wrong with their source. -/
def unnamed : ScriptError := .compile "Expecting name of a variable" (some 1) (some 4)

theorem compile_unnamed : Sandbox.compile {} actionParameters "let" = .error unnamed := by
  -- programs are not compared, so what is read of one is forgotten
  have hforgotten : (Sandbox.compile {} actionParameters "let").map (fun _ => ()) = .error unnamed := by
    decide +kernel
  cases hcompile : Sandbox.compile {} actionParameters "let" with
  | error error =>
    rw [hcompile] at hforgotten
    cases hforgotten
    rfl
  | ok program =>
    rw [hcompile] at hforgotten
    cases hforgotten

/-- Of two buttons the one is reported that does not compile. -/
theorem check_foretells_runs_broken :
    let d : Definition := { elements := [broken, idle] }
    ∃ u, ofDefinition? (Sandbox.engine {}) 8 d = .ok u ∧
      (∀ e ∈ u.panel.published.elements, e.capabilities.action = false → actionSource? e = none) ∧
      u.panel.runFlaw? {} {} "b" = some unnamed ∧ u.panel.runFlaw? {} {} "c" = none ∧
      u.panel.checkActions.map (·.elementId) = [some "b"] := by
  intro d
  let s : Snapshot := ⟨[broken, idle], Snapshot.valuesOf [broken, idle], by decide⟩
  obtain ⟨u, hu⟩ : ∃ u, ofDefinition? (Sandbox.engine {}) 8 d = .ok u :=
    ⟨ofSnapshot (Sandbox.engine {}) 8 d.title s, ofDefinition?_eq_ok_iff.2 ⟨s.distinct, rfl⟩⟩
  have hsettled : Evaluation.settled (Sandbox.engine {}) 8 s = s := Evaluation.settled_eq_self rfl
  have hpublished : u.panel.published = s := by
    rw [(ofDefinition?_eq_ok_iff.1 hu).2]
    exact (ofSnapshot_published _ _ _ s).trans hsettled
  have honly : ∀ e ∈ u.panel.published.elements, e.capabilities.action = false → actionSource? e = none := by
    rw [hpublished]
    decide
  have hbroken : u.panel.runFlaw? {} {} "b" = some unnamed := by
    have hrequest : u.panel.actionRequest "b" = .ok ⟨some "b", "let", s.elements, s.initial⟩ := by
      rw [actionRequest, hpublished]
      rfl
    exact runFlaw?_eq_some.2 ⟨_, hrequest, ActionRequest.run_eq_compile.2 compile_unnamed⟩
  have hidle : u.panel.runFlaw? {} {} "c" = none := by
    refine Option.eq_none_iff_forall_ne_some.2 fun error herror => ?_
    obtain ⟨r, hrequest, hrun⟩ := runFlaw?_eq_some.1 herror
    rw [actionRequest, hpublished] at hrequest
    obtain rfl := Except.ok.inj hrequest
    have hblank : Text.isBlankText " " = true := by decide
    obtain ⟨program, hcompile⟩ := Sandbox.compile_blank {} actionParameters hblank
    exact absurd ((ActionRequest.run_eq_compile.1 hrun).symm.trans hcompile) nofun
  have hreported : u.panel.checkActions.map (·.elementId) =
      (u.panel.published.elements.filter fun e => (u.panel.runFlaw? {} {} e.id).isSome).map (some ·.id) :=
    ((check_foretells_runs {} 8 d hu [] {}).2.2.2 honly).2
  refine ⟨u, hu, honly, hbroken, hidle, ?_⟩
  have helements : u.panel.published.elements = [broken, idle] := by rw [hpublished]
  have hbroken' : u.panel.runFlaw? {} {} broken.id = some unnamed := hbroken
  have hidle' : u.panel.runFlaw? {} {} idle.id = none := hidle
  rw [hreported, helements, List.filter_cons, List.filter_cons, hbroken', hidle']
  rfl

/-- An element that is no button is reported, though its action is never run. -/
theorem stray_action_reported :
    let p := (ofSnapshot (Sandbox.engine {}) 8 none ⟨[stray], ∅, by decide⟩).panel
    p.checkActions.map (·.elementId) = [some "t"] ∧ p.actionRequest "t" = .error (.notAButton "t") ∧
      ∀ x, p.runFlaw? {} x "t" = none := by
  intro p
  let s : Snapshot := ⟨[stray], ∅, by decide⟩
  have hsettled : Evaluation.settled (Sandbox.engine {}) 8 s = s := Evaluation.settled_eq_self rfl
  have hpublished : p.published = s := (ofSnapshot_published _ _ _ s).trans hsettled
  have hrequest : p.actionRequest "t" = .error (.notAButton "t") := by
    rw [actionRequest, hpublished]
    rfl
  have hflaw : actionFlaw? p.engine stray = some (.actionCompileError "t" unnamed) := by
    have hcompile : p.engine.compile actionParameters "let" = .error unnamed := compile_unnamed
    have hsource : actionSource? stray = some "let" := by decide
    rw [actionFlaw?, hsource, Option.map_some, hcompile]
    rfl
  refine ⟨?_, hrequest, fun x => ?_⟩
  · rw [checkActions, hpublished, List.filterMap_cons, hflaw]
    rfl
  · rw [runFlaw?, hrequest]

end Panel

end LiveForm

import LiveForm.Proofs.Evaluation.Rest
import LiveForm.Proofs.Form.Diff
import LiveForm.Proofs.Panel.Flags

/-!
# Panels at rest

What an evaluation that converged has left is evaluated once more. Values are at rest then, and all hangs on
the flags: if they fit, one pass finds nothing to do, and a refresh of a panel without values makes no
difference (`converged_rest`). They fit if the hooks for flags and options are flag-blind; what the hooks
that react to values look at plays no part.

Without that, convergence is no rest. A form of two elements, one of which shows what the other is like, is
said to have converged and changes its values when it is evaluated again (`not_rest_follower`).
-/

namespace LiveForm

variable {Program : Type}

namespace Panel

/-- A panel that shows what an evaluation has left, and says whether this converged. -/
def Settled (p : Panel Program) : Prop :=
  ∃ next : Snapshot, p.published = Evaluation.settled p.engine p.limit next ∧
    p.stats.converged =
      (Evaluation.run p.engine (next.elements.map p.engine.hooksOf) p.limit next.elements).converged

theorem publish_settled {p : Panel Program} (hr : p.registry.Sound p.engine) (next : Snapshot) :
    (p.publish next).panel.Settled :=
  ⟨next, publish_published hr, Evaluation.evaluate_converged (hr.retain next.elements)⟩

/-- A settled panel stays so in any session. -/
theorem Settled.after {p : Panel Program} (hp : p.Valid) (h : p.Settled) (ops : List Operation) :
    (p.after ops).Settled :=
  (after_induction (P := Settled)
    (fun _ next hp _ _ => publish_settled hp.sound next) hp h ops).1

/-- Every panel of a form is settled, after any session. -/
theorem after_settled {engine : Engine Program} {limit : Nat} {d : Definition} {u : Update Program}
    (h : ofDefinition? engine limit d = .ok u) (ops : List Operation) :
    (u.panel.after ops).Settled ∧ (u.panel.after ops).Valid := by
  obtain ⟨s, rfl⟩ := ofDefinition?_eq_ok h
  have hvalid := ofSnapshot_valid engine limit d.title s
  exact ⟨Settled.after hvalid (publish_settled Registry.sound_empty s) ops, after_valid hvalid ops⟩

theorem after_engine_of_definition {engine : Engine Program} {limit : Nat} {d : Definition}
    {u : Update Program} (h : ofDefinition? engine limit d = .ok u) (ops : List Operation) :
    (u.panel.after ops).engine = engine := by
  obtain ⟨hvalid, hengine, -⟩ := ofDefinition?_panel h
  exact (after_engine hvalid ops).trans hengine

variable {p : Panel Program}

theorem Settled.fits (h : p.Settled)
    (hblind : ∀ e ∈ p.published.elements, p.engine.AsksFlagBlind e) :
    Evaluation.Fits p.engine p.published.elements := by
  obtain ⟨next, hpublished, -⟩ := h
  rw [hpublished] at hblind ⊢
  refine Evaluation.run_fits (fun e he => ?_) p.limit
  obtain ⟨after, hafter, hframe⟩ :=
    mem_of_frame (Evaluation.settled_frame p.engine p.limit next).symm he
  exact (hblind after hafter).of_frame hframe

/-- A refresh without values evaluates what is published. -/
theorem refresh_nil (hp : p.Valid) : (p.refresh ∅).diff =
    Diff.between p.published (Evaluation.settled p.engine p.limit p.published) :=
  congrArg (Diff.between p.published) (publish_published hp.sound)

/-- A panel at rest makes no difference when it is refreshed without values. -/
theorem Settled.refresh (h : p.Settled) (hp : p.Valid) (hconverged : p.stats.converged = true)
    (hfits : Evaluation.Fits p.engine p.published.elements) : (p.refresh ∅).diff = {} := by
  obtain ⟨next, hpublished, hstats⟩ := h
  have hquiet : Evaluation.Quiet p.engine p.published.elements := by
    rw [hpublished]
    exact Evaluation.run_quiet (hstats.symm.trans hconverged)
  obtain ⟨-, -, -, helements⟩ := Evaluation.run_of_rest hfits hquiet p.limit
  have hsame : Evaluation.settled p.engine p.limit p.published = p.published := Snapshot.ext helements rfl
  rw [refresh_nil hp, hsame]
  exact Diff.between_self p.published

end Panel

/-- **Rest.** Let an evaluation converge, with whatever registry, and let its outcome be evaluated again.
This takes one pass, converges, changes nothing and gives the same snapshot just if the flags of the outcome
fit. They do if the hooks that are asked for flags and options are flag-blind. A panel that says it has
converged makes no difference then when it is refreshed without values. -/
theorem converged_rest (engine : Engine Program) (limit : Nat) :
    (∀ (r r' : Registry Program) (s : Snapshot), r.Sound engine → r'.Sound engine →
      let outcome := Evaluation.evaluate engine limit r s
      let again := Evaluation.evaluate engine limit r' outcome.snapshot
      outcome.converged = true →
        (Evaluation.Fits engine outcome.snapshot.elements ↔
          again.passes = 1 ∧ again.converged = true ∧ again.changed = [] ∧
            again.snapshot = outcome.snapshot) ∧
        ((∀ e ∈ s.elements, engine.AsksFlagBlind e) →
          Evaluation.Fits engine outcome.snapshot.elements)) ∧
    ∀ (d : Definition) (u : Update Program), Panel.ofDefinition? engine limit d = .ok u →
      ∀ ops : List Operation,
      let p := u.panel.after ops
      p.stats.converged = true →
        (Evaluation.Fits engine p.published.elements → (p.refresh ∅).diff = {}) ∧
        ((∀ e ∈ p.published.elements, engine.AsksFlagBlind e) →
          Evaluation.Fits engine p.published.elements) := by
  constructor
  · intro r r' s hr hr' outcome again hconverged
    exact ⟨Evaluation.evaluate_again hr hr' hconverged, Evaluation.evaluate_fits hr⟩
  · intro d u hu ops p hconverged
    obtain ⟨hsettled, hvalid⟩ := Panel.after_settled hu ops
    have hengine : p.engine = engine := Panel.after_engine_of_definition hu ops
    have hrefresh := hsettled.refresh hvalid hconverged
    have hfits := hsettled.fits
    rw [hengine] at hrefresh hfits
    exact ⟨hrefresh, hfits⟩

/-! ## A form that comes to rest -/

namespace Panel

open Script

/-- Where the slider is one above zero, two passes bring the form to rest: evaluated again it stays as it is. From two
above zero they do not. A panel that starts there has not converged, but once the slider has been edited it has, and
then refreshing it makes no difference. -/
theorem converged_rest_countdown :
    let outcome := Evaluation.evaluate (Sandbox.engine {}) 2 {} (countdown (.int 1))
    let again := Evaluation.evaluate (Sandbox.engine {}) 2 {} outcome.snapshot
    outcome.converged = true ∧ outcome.passes = 2 ∧
      (∀ e ∈ (countdown (.int 1)).elements, (Sandbox.engine {}).AsksFlagBlind e) ∧
      again.passes = 1 ∧ again.snapshot = outcome.snapshot ∧
      ∃ u, ofDefinition? (Sandbox.engine {}) 2 { elements := (countdown (.int 2)).elements } = .ok u ∧
        u.panel.stats.converged = false ∧
        (u.panel.after [.setValue "a" (.int 1)]).stats.converged = true ∧
        ((u.panel.after [.setValue "a" (.int 1)]).refresh ∅).diff = {} := by
  intro outcome again
  have hsound : ({} : Registry Script.Program).Sound (Sandbox.engine {}) := Registry.sound_empty
  have hblind : ∀ e ∈ (countdown (.int 1)).elements, (Sandbox.engine {}).AsksFlagBlind e :=
    asksFlagBlind_countdown (.int 1) rfl
  have hconverged : outcome.converged = true := by
    rw [Evaluation.evaluate_converged hsound, hooksOf_countdown rfl]
    decide +kernel
  have htwo : outcome.passes = 2 := by
    rw [Evaluation.evaluate_passes hsound, hooksOf_countdown rfl]
    decide +kernel
  obtain ⟨hrest, hpanel⟩ := converged_rest (Sandbox.engine {}) 2
  obtain ⟨hagain, hfits⟩ := hrest {} {} (countdown (.int 1)) hsound hsound hconverged
  obtain ⟨hone, -, -, hsame⟩ := hagain.1 (hfits hblind)
  obtain ⟨u, hu⟩ := ofDefinition?_countdown 2 (.int 2)
  obtain ⟨-, -, -, -, hstart⟩ := ofDefinition?_panel hu
  obtain ⟨hpublished, hends⟩ := setValue_countdown hu (.int 1)
  have hstop : u.panel.stats.converged = false := by
    rw [hstart, hooksOf_countdown rfl]
    decide +kernel
  have hafter : (u.panel.after [.setValue "a" (.int 1)]).stats.converged = true :=
    hends.trans (by decide +kernel)
  have hasks : ∀ e ∈ (u.panel.after [.setValue "a" (.int 1)]).published.elements,
      (Sandbox.engine {}).AsksFlagBlind e := by
    refine asksFlagBlind_countdown (.int 0) ?_
    rw [hpublished]
    decide +kernel
  obtain ⟨hrefresh, hfitsAfter⟩ := hpanel _ u hu [.setValue "a" (.int 1)] hafter
  exact ⟨hconverged, htwo, hblind, hone, hsame, u, hu, hstop, hafter, hrefresh (hfitsAfter hasks)⟩

/-! ## A form that follows its flags -/

theorem hooksOf_hidden : (Sandbox.engine {}).hooksOf hidden =
    { showIf := some (.script (Sandbox.literalProgram (.bool false) ⟨1, 1⟩)) } := by
  rw [← Sandbox.compiled_of_compile compile_hidden]
  rfl

/-- A switch that is shown if `hidden` was, and whose value is whether it is shown. -/
def follower : Element :=
  { id := "b", type := .boolean, value := .bool true
    hooks := { showIf := some "elements[0].visible", onValueChanged := some "element.visible" } }

/-- The script of what a chain of links says of being shown. -/
def shownProgram (root : String) (links : List Link) (dot : Nat) : Script.Program where
  parameters := HookKind.parameters
  body := [.expr (.chain (.variable root false ⟨1, 1⟩)
    (links ++ [.property "visible" false ⟨1, dot⟩ ⟨1, dot + 1⟩]))]
  functions := []

def firstShown : Script.Program :=
  shownProgram "elements" [.index (.literal (.int 0) ⟨1, 10⟩) false ⟨1, 9⟩] 12

def ownShown : Script.Program := shownProgram "element" [] 8

theorem compile_firstShown : Sandbox.compile {} HookKind.parameters "elements[0].visible" =
    .ok firstShown := by
  cbv

theorem compile_ownShown : Sandbox.compile {} HookKind.parameters "element.visible" =
    .ok ownShown := by
  cbv

theorem hooksOf_follower : (Sandbox.engine {}).hooksOf follower =
    { showIf := some (.script firstShown), onValueChanged := some (.script ownShown) } := by
  rw [← Sandbox.compiled_of_compile compile_firstShown,
    ← Sandbox.compiled_of_compile compile_ownShown]
  rfl

/-- The form before any evaluation, after one, and after another. -/
def unfollowed : Snapshot := ⟨[hidden, follower], Snapshot.valuesOf [hidden, follower], by decide⟩

def halfFollowed : Snapshot :=
  ⟨[{ hidden with visible := false }, follower], unfollowed.initial, by decide⟩

def followed : Snapshot :=
  ⟨[{ hidden with visible := false }, { follower with value := .bool false, visible := false }],
    unfollowed.initial, by decide⟩

/-- The first evaluation shows the follower, as it derives from a form where all was shown. -/
theorem run_unfollowed :
    let p := Evaluation.run (Sandbox.engine {}) (unfollowed.elements.map (Sandbox.engine {}).hooksOf) 8
      unfollowed.elements
    p.converged = true ∧ p.elements = halfFollowed.elements := by
  simp only [unfollowed, List.map_cons, List.map_nil, hooksOf_hidden, hooksOf_follower]
  exact ⟨by decide +kernel, by decide +kernel⟩

/-- The next one hides it and writes its value. -/
theorem run_halfFollowed :
    let p := Evaluation.run (Sandbox.engine {}) (halfFollowed.elements.map (Sandbox.engine {}).hooksOf)
      8 halfFollowed.elements
    p.passes = 2 ∧ p.changed = ["b"] ∧ p.elements = followed.elements := by
  have hhidden : (Sandbox.engine {}).hooksOf { hidden with visible := false } =
      (Sandbox.engine {}).hooksOf hidden := rfl
  simp only [halfFollowed, List.map_cons, List.map_nil, hhidden, hooksOf_hidden, hooksOf_follower]
  exact ⟨by decide +kernel, by decide +kernel, by decide +kernel⟩

theorem settled_unfollowed : Evaluation.settled (Sandbox.engine {}) 8 unfollowed = halfFollowed := by
  refine Snapshot.ext ?_ rfl
  rw [Evaluation.settled_elements, run_unfollowed.2]

theorem settled_halfFollowed : Evaluation.settled (Sandbox.engine {}) 8 halfFollowed = followed := by
  refine Snapshot.ext ?_ rfl
  rw [Evaluation.settled_elements, run_halfFollowed.2.2]

/-- **Convergence alone is no rest.** Evaluated again, the outcome of an evaluation that has converged takes
two passes and has another value, and refreshing a panel without values makes a difference. -/
theorem not_rest_follower :
    let outcome := Evaluation.evaluate (Sandbox.engine {}) 8 {} unfollowed
    let again := Evaluation.evaluate (Sandbox.engine {}) 8 {} outcome.snapshot
    outcome.converged = true ∧ again.passes = 2 ∧ again.changed = ["b"] ∧ again.snapshot ≠ outcome.snapshot ∧
      ∃ u, ofDefinition? (Sandbox.engine {}) 8 { elements := [hidden, follower] } = .ok u ∧
        u.panel.stats.converged = true ∧ (u.panel.refresh ∅).diff ≠ {} := by
  have hsound : ({} : Registry Script.Program).Sound (Sandbox.engine {}) := Registry.sound_empty
  obtain ⟨hpasses, hchanged, -⟩ := run_halfFollowed
  have hu : ofDefinition? (Sandbox.engine {}) 8 { elements := [hidden, follower] } =
      .ok (ofSnapshot (Sandbox.engine {}) 8 none unfollowed) := rfl
  have hvalid := ofSnapshot_valid (Sandbox.engine {}) 8 none unfollowed
  simp only [Evaluation.evaluate_snapshot hsound, settled_unfollowed,
     settled_halfFollowed]
  refine ⟨?_, ?_, ?_, by decide, _, hu, ?_, ?_⟩
  · rw [Evaluation.evaluate_converged hsound]
    exact run_unfollowed.1
  · rw [Evaluation.evaluate_passes hsound]
    exact hpasses
  · rw [Evaluation.evaluate_changed hsound]
    exact hchanged
  · rw [ofSnapshot_converged]
    exact run_unfollowed.1
  · have hengine (s : Snapshot) :
        (ofSnapshot (Sandbox.engine {}) 8 none s).panel.engine = Sandbox.engine {} := rfl
    have hlimit (s : Snapshot) : (ofSnapshot (Sandbox.engine {}) 8 none s).panel.limit = 8 := rfl
    rw [refresh_nil hvalid, ofSnapshot_published, hengine, hlimit, settled_unfollowed,
      settled_halfFollowed]
    decide

end Panel

end LiveForm

import LiveForm.Proofs.Evaluation.Calls
import LiveForm.Proofs.Hook.Errors

/-!
# Removing hooks

Removing hooks is a map on elements (`Element.withoutHooks`). Two evaluations are run side by side here, one
with all the hooks and one without some, and every step of an evaluation commutes with the removal as long
as the calls of the removed hooks are **in vain** (`Call.Vain`): the hook never compiled, or the call fails.
What has been reported of the removed hooks is taken out along with them.

* **derive** — what comes of a call in vain is the default, just as of a hook that is not there;
* **react** — a call in vain writes nothing. What a hook has written before it fails is never seen, since
  writes are collected from the result of a run only.
-/

namespace LiveForm

variable {Program : Type}

/-! ## Removing hooks -/

/-- The hooks without those of some kinds. -/
def Hooks.without (h : Hooks) (removed : HookKind → Bool) : Hooks where
  showIf := if removed .showIf then none else h.showIf
  disableIf := if removed .disableIf then none else h.disableIf
  getOptions := if removed .getOptions then none else h.getOptions
  onValueChanged := if removed .onValueChanged then none else h.onValueChanged

theorem Hooks.without_source? (h : Hooks) (removed : HookKind → Bool) (kind : HookKind) :
    (h.without removed).source? kind = if removed kind then none else h.source? kind := by
  cases kind <;> simp only [source?, text?, without] <;> split <;> rfl

/-- A diagnostic of one of these hooks. -/
def Diagnostic.concerns (hooks : HookKey → Bool) (d : Diagnostic) : Bool :=
  match d.elementId, d.source with
  | some id, .hook kind => hooks (id, kind)
  | _, _ => false

/-- What is left of a report when the diagnostics of some hooks are taken out. -/
def reportWithout (removed : HookKey → Bool) (ds : List Diagnostic) : List Diagnostic :=
  ds.filter fun d => !d.concerns removed

section

variable (removed : HookKey → Bool)

@[simp] theorem reportWithout_append (ds ds' : List Diagnostic) :
    reportWithout removed (ds ++ ds') = reportWithout removed ds ++ reportWithout removed ds' :=
  List.filter_append ..

/-- An element without those of its hooks that are among some hooks. -/
def Element.withoutHooks (e : Element) : Element :=
  { e with hooks := e.hooks.without fun kind => removed (e.id, kind) }

@[simp] theorem Element.withoutHooks_id (e : Element) : (e.withoutHooks removed).id = e.id := rfl

@[simp] theorem Script.elementView_withoutHooks (e : Element) :
    elementView (e.withoutHooks removed) = elementView e := rfl

theorem Script.elementViews_withoutHooks (es : List Element) :
    elementViews (es.map (Element.withoutHooks removed)) = elementViews es := by
  rw [elementViews, List.map_map]
  rfl

/-- A snapshot without some hooks. -/
def Snapshot.withoutHooks (s : Snapshot) : Snapshot where
  elements := s.elements.map (Element.withoutHooks removed)
  initial := s.initial
  distinct := s.distinct.of_ids (by rw [List.map_map]; rfl)

@[simp] theorem Snapshot.withoutHooks_elements (s : Snapshot) :
    (s.withoutHooks removed).elements = s.elements.map (Element.withoutHooks removed) := rfl

/-- A state of a pass without some hooks, and without what has been reported of them. -/
def Reaction.withoutHooks (r : Reaction) : Reaction :=
  { r with
    elements := r.elements.map (Element.withoutHooks removed)
    diagnostics := reportWithout removed r.diagnostics }

/-- A state between two passes without some hooks, and without what has been reported of them. -/
def Evaluation.Progress.withoutHooks (p : Progress) : Progress :=
  { p with
    elements := p.elements.map (Element.withoutHooks removed)
    faults := reportWithout removed p.faults }

theorem Engine.hookOf?_withoutHooks (engine : Engine Program) (e : Element) (kind : HookKind) :
    engine.hookOf? (e.withoutHooks removed) kind =
      if removed (e.id, kind) then none else engine.hookOf? e kind := by
  simp only [hookOf?, Element.withoutHooks, Hooks.without_source?]
  split <;> rfl

end

/-! ## Calls in vain -/

/-- A call that comes to nothing: the hook never compiled, or the call fails. -/
def Call.Vain (engine : Engine Program) (c : Call Program) : Prop :=
  c.hook = .noop ∨ (c.fault? engine).isSome

namespace Call

variable {engine : Engine Program} {c : Call Program}

theorem Vain.value? (h : c.Vain engine) (hkind : c.kind ≠ .getOptions) :
    (engine.ask c.hook c.views c.own).value? = none := by
  rcases h with hnoop | hfault
  · rw [hnoop]
    rfl
  · have hreply : c.fault? engine = (engine.ask c.hook c.views c.own).fault? := by
      rw [fault?]
      split
      · next heq => exact absurd heq hkind
      · rfl
    rw [hreply] at hfault
    cases hask : engine.ask c.hook c.views c.own with
    | fault error => rfl
    | _ => simp [hask, Reply.fault?] at hfault

theorem Vain.options (h : c.Vain engine) (hkind : c.kind = .getOptions) :
    (Evaluation.optionsOf (engine.ask c.hook c.views c.own)).1 = none := by
  rcases h with hnoop | hfault
  · rw [hnoop]
    rfl
  · simp only [fault?, hkind] at hfault
    cases hask : engine.ask c.hook c.views c.own with
    | fault error => rfl
    | nothing => rfl
    | value v =>
      simp only [hask, Evaluation.optionsOf] at hfault ⊢
      split at hfault
      · cases hfault
      · rfl

end Call

/-- The calls of removed hooks are in vain. -/
def VainWithin (engine : Engine Program) (removed : HookKey → Bool) (calls : List (Call Program)) :
    Prop :=
  ∀ c ∈ calls, removed c.key = true → c.Vain engine

theorem VainWithin.append {engine : Engine Program} {removed : HookKey → Bool}
    {cs ds : List (Call Program)} (h : VainWithin engine removed (cs ++ ds)) :
    VainWithin engine removed cs ∧ VainWithin engine removed ds :=
  ⟨fun c hc => h c (List.mem_append_left _ hc), fun c hc => h c (List.mem_append_right _ hc)⟩

/-! ## Deriving -/

namespace Evaluation

variable {engine : Engine Program} {removed : HookKey → Bool}

section

variable {views : List Script.Value} {e : Element}
  (h : VainWithin engine removed (callsOf views e (engine.hooksOf e)))

include h

/-- A removed hook that is asked for something gives nothing. -/
theorem vain_of_asked {kind : HookKind} (hasks : asks e kind = true)
    (hremoved : removed (e.id, kind) = true) {hook : Callable Program}
    (hhook : engine.hookOf? e kind = some hook) :
    Call.Vain engine ⟨e.id, kind, hook, views, Script.elementView e⟩ :=
  h _ (mem_callsOf.2 ⟨kind, hook, hasks, by rw [Engine.hooksOf_get, hhook], rfl⟩) hremoved

theorem value?_withoutHooks (kind : HookKind) (hasks : asks e kind = true)
    (hkind : kind ≠ .getOptions) :
    ((engine.hookOf? (e.withoutHooks removed) kind).bind fun hook =>
        (engine.ask hook views (Script.elementView e)).value?) =
      (engine.hookOf? e kind).bind fun hook =>
        (engine.ask hook views (Script.elementView e)).value? := by
  rw [Engine.hookOf?_withoutHooks]
  split
  · next hremoved =>
    cases hhook : engine.hookOf? e kind with
    | none => rfl
    | some hook => exact ((vain_of_asked h hasks hremoved hhook).value? hkind).symm
  · rfl

theorem askOptions_withoutHooks (hasks : asks e .getOptions = true) :
    (askOptions engine views (Script.elementView e) e.id
        (engine.hookOf? (e.withoutHooks removed) .getOptions)).1 =
      (askOptions engine views (Script.elementView e) e.id (engine.hookOf? e .getOptions)).1 := by
  rw [Engine.hookOf?_withoutHooks]
  split
  · next hremoved =>
    cases hhook : engine.hookOf? e .getOptions with
    | none => rfl
    | some hook => exact ((vain_of_asked h hasks hremoved hhook).options rfl).symm
  · rfl

/-- What is derived of an element does not hang on its broken hooks. -/
theorem deriveOne_fst_withoutHooks :
    (deriveOne engine views (Script.elementView e) (e.withoutHooks removed)
        (engine.hooksOf (e.withoutHooks removed))).1 =
      (deriveOne engine views (Script.elementView e) e (engine.hooksOf e)).1 := by
  have hshow := value?_withoutHooks h .showIf rfl (by decide)
  simp only [deriveOne, Engine.hooksOf, askCondition_fst, hshow, Derived.mk.injEq, true_and]
  have hcapabilities : (e.withoutHooks removed).capabilities = e.capabilities := rfl
  rw [hcapabilities]
  constructor
  · cases hread : e.capabilities.readOnly with
    | true => rfl
    | false =>
      have hasks : asks e .disableIf = true := by simp [asks, hread]
      simp only [Bool.false_eq_true, if_false, askCondition_fst,
        value?_withoutHooks h .disableIf hasks (by decide)]
  · cases hoptions : e.capabilities.options with
    | false => rfl
    | true =>
      simp only [if_true]
      exact askOptions_withoutHooks h hoptions

end

/-- The calls for an element without some hooks are the others. -/
theorem callsOf_withoutHooks (engine : Engine Program) (removed : HookKey → Bool)
    (views : List Script.Value) (e : Element) :
    callsOf views (e.withoutHooks removed) (engine.hooksOf (e.withoutHooks removed)) =
      (callsOf views e (engine.hooksOf e)).filter fun c => !removed c.key := by
  have hasks : asks (e.withoutHooks removed) = asks e := by
    funext kind
    cases kind <;> rfl
  rw [callsOf, callsOf, hasks, List.filter_flatMap]
  congr 1
  funext kind
  rw [Engine.hooksOf_get, Engine.hooksOf_get, Engine.hookOf?_withoutHooks]
  cases engine.hookOf? e kind with
  | none => split <;> rfl
  | some hook =>
    cases hremoved : removed (e.id, kind) <;> simp [hremoved, Call.key]

/-- Their diagnostics are the others. -/
theorem diagnostics_filter (engine : Engine Program) (removed : HookKey → Bool)
    (cs : List (Call Program)) :
    Call.diagnostics engine (cs.filter fun c => !removed c.key) =
      reportWithout removed (Call.diagnostics engine cs) := by
  rw [Call.diagnostics, List.filterMap_filter, Call.diagnostics, reportWithout,
    List.filter_filterMap]
  congr 1
  funext c
  rw [Call.diagnostic?]
  cases c.fault? engine with
  | none => split <;> rfl
  | some error =>
    have hconcerns : (Diagnostic.hookFault c.id c.kind error).concerns removed = removed c.key := rfl
    simp only [Option.map_some, Option.filter_some, hconcerns]

theorem derive_withoutHooks {es : List Element}
    (h : VainWithin engine removed (deriveCalls (es.map engine.hooksOf) es)) :
    derive engine ((es.map (Element.withoutHooks removed)).map engine.hooksOf)
        (es.map (Element.withoutHooks removed)) =
      ((derive engine (es.map engine.hooksOf) es).1.map (Element.withoutHooks removed),
        reportWithout removed (derive engine (es.map engine.hooksOf) es).2) := by
  rw [deriveCalls_eq_flatMap] at h
  refine Prod.ext ?_ ?_
  · rw [derive_eq_map, derive_eq_map, List.map_map, List.map_map]
    refine List.map_congr_left fun e he => ?_
    have hcalls : VainWithin engine removed
        (callsOf (Script.elementViews es) e (engine.hooksOf e)) := fun c hc =>
      h c (List.mem_flatMap.2 ⟨e, he, hc⟩)
    simp only [Function.comp_apply, derivedIn, Script.elementViews_withoutHooks,
      Script.elementView_withoutHooks, deriveOne_fst_withoutHooks hcalls]
    rfl
  · rw [derive_snd, derive_snd, deriveCalls_eq_flatMap, deriveCalls_eq_flatMap,
      Script.elementViews_withoutHooks, List.flatMap_map, ← diagnostics_filter, List.filter_flatMap]
    simp only [callsOf_withoutHooks]

/-! ## Reacting -/

/-- What a run writes does not hang on the hooks of the elements. -/
theorem collectWrites_withoutHooks (removed : HookKey → Bool) (es : List Element)
    (views : List Script.Value) (own : Nat) (i : Invocation) :
    collectWrites (es.map (Element.withoutHooks removed)) views own i =
      collectWrites es views own i := by
  have hplace (id : String) : (es.map (Element.withoutHooks removed)).findIdx? (·.id == id) =
      es.findIdx? (·.id == id) := by
    rw [List.findIdx?_map]
    rfl
  have hedits (items : List Script.Value) :
      editWrites (es.map (Element.withoutHooks removed)) views items = editWrites es views items := by
    simp only [editWrites, hplace]
  simp only [collectWrites, hedits, List.getElem?_map]
  cases i.value? "element" <;> cases es[own]? <;> rfl

end Evaluation

namespace Reaction

variable {engine : Engine Program} {removed : HookKey → Bool}

theorem withoutHooks_start (es : List Element) (changed : List String) :
    start (es.map (Element.withoutHooks removed)) changed =
      (start es changed).withoutHooks removed := by
  simp only [start, Script.elementViews_withoutHooks]
  rfl

theorem getElem?_withoutHooks (r : Reaction) (place : Nat) :
    (r.withoutHooks removed).elements[place]? =
      (r.elements[place]?).map (Element.withoutHooks removed) :=
  List.getElem?_map ..

theorem write_withoutHooks (removed : HookKey → Bool) (r : Reaction) (w : ValueWrite) :
    (r.withoutHooks removed).write w = (r.write w).withoutHooks removed := by
  cases he : r.elements[w.place]? with
  | none => simp only [write, getElem?_withoutHooks, he, Option.map_none]
  | some e =>
    have he' : (r.withoutHooks removed).elements[w.place]? = some (e.withoutHooks removed) := by
      rw [getElem?_withoutHooks, he, Option.map_some]
    cases hsame : e.value.same (e.clamp w.value) with
    | true => rw [write_of_same he hsame, write_of_same he' hsame]
    | false =>
      rw [write_of_not_same he hsame, write_of_not_same he' hsame]
      simp only [withoutHooks, List.map_set]
      rfl

theorem writes_withoutHooks (removed : HookKey → Bool) (writes : List ValueWrite) (r : Reaction) :
    writes.foldl write (r.withoutHooks removed) =
      (writes.foldl write r).withoutHooks removed := by
  induction writes generalizing r with
  | nil => rfl
  | cons w ws ih => rw [List.foldl_cons, List.foldl_cons, write_withoutHooks, ih]

section

variable {r : Reaction} {place : Nat} {e : Element} (he : r.elements[place]? = some e)
  {hook : Callable Program}

include he

/-- A hook that stays does the same. -/
theorem callAt_withoutHooks (hkept : removed (e.id, .onValueChanged) = false) :
    (r.withoutHooks removed).callAt engine place hook =
      (r.callAt engine place hook).withoutHooks removed := by
  have hviews : (r.withoutHooks removed).views = r.views := rfl
  have hreport (error : ScriptError) :
      reportWithout removed [.hookFault e.id .onValueChanged error] =
        [.hookFault e.id .onValueChanged error] := by
    simp [reportWithout, Diagnostic.concerns, Diagnostic.hookFault, hkept]
  have hwrites (i : Invocation) : Evaluation.collectWrites (r.withoutHooks removed).elements
      r.views place i = Evaluation.collectWrites r.elements r.views place i :=
    Evaluation.collectWrites_withoutHooks ..
  simp only [callAt, getElem?_withoutHooks, he, Option.map_some, hviews]
  cases r.views[place]? with
  | none => rfl
  | some view =>
    simp only [hwrites, writes_withoutHooks]
    cases engine.callHook hook r.views view with
    | error error => simp [withoutHooks, hreport]
    | ok answer =>
      cases answer with
      | none => rfl
      | some i =>
        simp only
        cases Evaluation.collectWrites r.elements r.views place i with
        | error error => simp [withoutHooks, hreport]
        | ok writes => rfl

/-- A removed hook does nothing but to report. -/
theorem callAt_vain {view : Script.Value} (hview : r.views[place]? = some view)
    (hremoved : removed (e.id, .onValueChanged) = true)
    (h : VainWithin engine removed (r.callsAt place hook)) :
    (r.callAt engine place hook).withoutHooks removed = r.withoutHooks removed := by
  have hreport (error : ScriptError) :
      (r.report (.hookFault e.id .onValueChanged error)).withoutHooks removed =
        r.withoutHooks removed := by
    simp [withoutHooks, report, reportWithout, Diagnostic.concerns, Diagnostic.hookFault, hremoved]
  rw [callsAt_eq he hview] at h
  have hvalue : (engine.ask hook r.views view).value? = none :=
    (h _ List.mem_cons_self hremoved).value? nofun
  simp only [callAt, he, hview]
  simp only [Engine.ask] at hvalue
  cases hcall : engine.callHook hook r.views view with
  | error error => exact hreport error
  | ok answer =>
    cases answer with
    | none => rfl
    | some i =>
      cases hjson : i.json? with
      | error error =>
        simp only [Evaluation.collectWrites_error r.elements r.views place hjson]
        exact hreport error
      | ok result =>
        simp only [hcall, hjson] at hvalue
        cases hvalue

end

/-- **Reacting does not hang on broken hooks.** -/
theorem callFrom_withoutHooks {es : List Element} (rest front : List Element) {r : Reaction}
    (ht : r.Tracks es) (hes : es.map Element.frame = (front ++ rest).map Element.frame)
    (h : VainWithin engine removed
      (r.callsFrom engine front.length (rest.map engine.hooksOf))) :
    (r.withoutHooks removed).callFrom engine front.length
        ((rest.map (Element.withoutHooks removed)).map engine.hooksOf) =
      (r.callFrom engine front.length (rest.map engine.hooksOf)).withoutHooks removed := by
  induction rest generalizing front r with
  | nil => rfl
  | cons e₀ rest ih =>
    obtain ⟨e, he, hframe, hview⟩ := ht.at_front hes
    have hid : e.id = e₀.id := Element.id_eq_of_frame hframe
    have ih {r : Reaction} := ih (front ++ [e₀]) (r := r)
    rw [List.append_assoc, List.singleton_append, List.length_append, List.length_singleton] at ih
    have hhooks : (engine.hooksOf (e₀.withoutHooks removed)).onValueChanged =
        if removed (e₀.id, .onValueChanged) then none
        else (engine.hooksOf e₀).onValueChanged :=
      Engine.hookOf?_withoutHooks removed engine e₀ .onValueChanged
    simp only [List.map_cons, callFrom, hhooks]
    simp only [List.map_cons, callsFrom] at h
    cases hhook : (engine.hooksOf e₀).onValueChanged with
    | none =>
      simp only [hhook] at h
      simp only [ite_self]
      exact ih ht hes h
    | some hook =>
      simp only [hhook] at h
      have hafter := ih (ht.callAt engine front.length hook) hes h.append.2
      cases hremoved : removed (e₀.id, .onValueChanged) with
      | true =>
        simp only [if_true]
        rw [← hafter, callAt_vain he hview (hid ▸ hremoved) h.append.1]
      | false =>
        simp only [Bool.false_eq_true, if_false]
        rw [← hafter, callAt_withoutHooks he (hid ▸ hremoved)]

end Reaction

/-! ## Passes -/

namespace Evaluation

variable {engine : Engine Program} {removed : HookKey → Bool} {es : List Element}

theorem map_withoutHooks_frame (removed : HookKey → Bool) {es es' : List Element}
    (h : es'.map Element.frame = es.map Element.frame) :
    (es'.map (Element.withoutHooks removed)).map engine.hooksOf =
      (es.map (Element.withoutHooks removed)).map engine.hooksOf := by
  rw [List.map_map, List.map_map]
  exact map_eq_of_frame (engine.hooksOf ∘ Element.withoutHooks removed) (fun _ => rfl) h

theorem derive_withoutHooks_of_frame {es' : List Element}
    (hframe : es'.map Element.frame = es.map Element.frame)
    (h : VainWithin engine removed (deriveCalls (es.map engine.hooksOf) es')) :
    derive engine ((es.map (Element.withoutHooks removed)).map engine.hooksOf)
        (es'.map (Element.withoutHooks removed)) =
      ((derive engine (es.map engine.hooksOf) es').1.map (Element.withoutHooks removed),
        reportWithout removed (derive engine (es.map engine.hooksOf) es').2) := by
  rw [← Engine.map_hooksOf_eq engine hframe] at h ⊢
  rw [← map_withoutHooks_frame removed hframe]
  exact derive_withoutHooks h

theorem pass_withoutHooks {p : Progress}
    (hp : p.elements.map Element.frame = es.map Element.frame)
    (h : VainWithin engine removed (passCalls engine (es.map engine.hooksOf) p)) :
    pass engine ((es.map (Element.withoutHooks removed)).map engine.hooksOf)
        (p.withoutHooks removed) =
      (pass engine (es.map engine.hooksOf) p).withoutHooks removed := by
  have hderive := derive_withoutHooks_of_frame hp h.append.1
  have hreact := Reaction.callFrom_withoutHooks es []
    (Reaction.Tracks.start _ p.changed) ((derive_frame engine _ p.elements).trans hp) h.append.2
  rw [← Reaction.withoutHooks_start] at hreact
  simp only [pass, Progress.withoutHooks, hderive, react]
  rw [List.length_nil] at hreact
  rw [hreact]
  simp only [reportWithout_append]
  rfl

theorem iterate_withoutHooks (left : Nat) {p : Progress}
    (hp : p.elements.map Element.frame = es.map Element.frame)
    (h : VainWithin engine removed (iterateCalls engine (es.map engine.hooksOf) left p)) :
    iterate engine ((es.map (Element.withoutHooks removed)).map engine.hooksOf) left
        (p.withoutHooks removed) =
      (iterate engine (es.map engine.hooksOf) left p).withoutHooks removed := by
  induction left generalizing p with
  | zero => rfl
  | succ left ih =>
    simp only [iterateCalls] at h
    have hpass := pass_withoutHooks hp h.append.1
    have hconverged : ((pass engine (es.map engine.hooksOf) p).withoutHooks removed).converged =
        (pass engine (es.map engine.hooksOf) p).converged := rfl
    simp only [iterate, hpass, hconverged]
    have hrest := h.append.2
    split
    · rfl
    · next hnot =>
      rw [if_neg hnot] at hrest
      exact ih ((pass_frame engine _ p).trans hp) hrest

theorem run_withoutHooks {limit : Nat}
    (h : VainWithin engine removed (runCalls engine (es.map engine.hooksOf) limit es)) :
    run engine ((es.map (Element.withoutHooks removed)).map engine.hooksOf) limit
        (es.map (Element.withoutHooks removed)) =
      (run engine (es.map engine.hooksOf) limit es).withoutHooks removed := by
  have hiterate := iterate_withoutHooks (p := { elements := es }) (max limit 1) rfl h.append.1
  have hstart : ({ elements := es : Progress }).withoutHooks removed =
      { elements := es.map (Element.withoutHooks removed) } := rfl
  rw [hstart] at hiterate
  rw [run, hiterate, run]
  have hsettle := h.append.2
  have hframe := iterate_frame engine (es.map engine.hooksOf) (max limit 1) { elements := es }
  generalize iterate engine (es.map engine.hooksOf) (max limit 1) { elements := es } = p
    at hsettle hframe ⊢
  have hconverged : (p.withoutHooks removed).converged = p.converged := rfl
  rw [settle, settle, hconverged]
  rw [settleCalls] at hsettle
  split
  · rfl
  · next hnot =>
    rw [if_neg hnot] at hsettle
    have hderive := derive_withoutHooks_of_frame hframe hsettle
    simp only [Progress.withoutHooks, hderive, reportWithout_append]

end Evaluation

end LiveForm

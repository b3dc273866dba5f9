import LiveForm.Proofs.Evaluation.FixedPoint

/-!
# The calls of an evaluation

What an evaluation asks of hooks is written down here as a list of calls, taken from the very states it goes
through. Deriving calls the hooks for flags and options element by element, all with the same views, and
leaves out those whose answer could not matter (`deriveCalls`). Reacting calls one hook after the other, each
with the views that the ones before it have left (`Reaction.callsFrom`).

A call **fails** if the hook stops with a fault, if its result has no JSON form, or if options are wanted and
its result is no list of them (`Call.fault?`). The diagnostics of an evaluation are those of the calls that
fail, in order and each reported once (`run_faults`). So statements about failures can be made about calls.
-/

namespace LiveForm

variable {Program : Type}

/-- Why a reply is a failure, if it is one. -/
def Reply.fault? : Reply → Option ScriptError
  | .fault e => some e
  | _ => none

/-- A call of a hook: of which element and kind, and with which views. -/
structure Call (Program : Type) where
  id : String
  kind : HookKind
  hook : Callable Program
  views : List Script.Value
  own : Script.Value

namespace Call

def key (c : Call Program) : HookKey := (c.id, c.kind)

/-- Why a call fails, if it does. -/
def fault? (engine : Engine Program) (c : Call Program) : Option ScriptError :=
  let reply := engine.ask c.hook c.views c.own
  match c.kind with
  | .getOptions => (Evaluation.optionsOf reply).2
  | _ => reply.fault?

/-- The diagnostic of a call that fails. -/
def diagnostic? (engine : Engine Program) (c : Call Program) : Option Diagnostic :=
  (c.fault? engine).map (Diagnostic.hookFault c.id c.kind)

/-- The diagnostics of the calls that fail. -/
def diagnostics (engine : Engine Program) (calls : List (Call Program)) : List Diagnostic :=
  calls.filterMap (diagnostic? engine)

@[simp] theorem diagnostics_nil (engine : Engine Program) : diagnostics engine [] = [] := rfl

@[simp] theorem diagnostics_append (engine : Engine Program) (cs ds : List (Call Program)) :
    diagnostics engine (cs ++ ds) = diagnostics engine cs ++ diagnostics engine ds :=
  List.filterMap_append

/-- There are as many diagnostics as calls that fail. -/
theorem length_diagnostics (engine : Engine Program) (cs : List (Call Program)) :
    (diagnostics engine cs).length = cs.countP fun c => (c.fault? engine).isSome := by
  simp only [diagnostics, List.length_filterMap_eq_countP, diagnostic?, Option.isSome_map]

/-- A hook that never compiled does not fail. -/
theorem fault?_noop (engine : Engine Program) {c : Call Program} (h : c.hook = .noop) :
    c.fault? engine = none := by
  have hreply : engine.ask c.hook c.views c.own = .nothing := by rw [h]; rfl
  simp only [fault?, hreply]
  cases c.kind <;> rfl

end Call

/-! ## What calls are made -/

namespace Evaluation

/-- Whether a hook of this kind is asked when the state of an element is derived. -/
def asks (e : Element) : HookKind → Bool
  | .showIf => true
  | .disableIf => !e.capabilities.readOnly
  | .getOptions => e.capabilities.options
  | .onValueChanged => false

/-- The calls for what is derived of one element. -/
def callsOf (views : List Script.Value) (e : Element) (hooks : ResolvedHooks Program) :
    List (Call Program) :=
  (HookKind.all.filter (asks e)).flatMap fun kind =>
    ((hooks.get kind).map fun hook => ⟨e.id, kind, hook, views, Script.elementView e⟩).toList

/-- The calls for what is derived of all elements. -/
def deriveCalls (hooks : List (ResolvedHooks Program)) (es : List Element) : List (Call Program) :=
  (es.zip hooks).flatMap fun (e, h) => callsOf (Script.elementViews es) e h

end Evaluation

namespace Reaction

/-- The call of a hook at a place. -/
def callsAt (place : Nat) (hook : Callable Program) (r : Reaction) : List (Call Program) :=
  match r.elements[place]?, r.views[place]? with
  | some e, some view => [⟨e.id, .onValueChanged, hook, r.views, view⟩]
  | _, _ => []

/-- The calls of the hooks from a place on. -/
def callsFrom (engine : Engine Program) (place : Nat) (r : Reaction) :
    List (ResolvedHooks Program) → List (Call Program)
  | [] => []
  | hooks :: rest =>
    match hooks.onValueChanged with
    | some hook =>
      r.callsAt place hook ++ (r.callAt engine place hook).callsFrom engine (place + 1) rest
    | none => r.callsFrom engine (place + 1) rest

end Reaction

namespace Evaluation

/-- The calls of one pass. -/
def passCalls (engine : Engine Program) (hooks : List (ResolvedHooks Program)) (p : Progress) :
    List (Call Program) :=
  deriveCalls hooks p.elements ++
    (Reaction.start (derive engine hooks p.elements).1 p.changed).callsFrom engine 0 hooks

/-- The calls of passes until one converges. -/
def iterateCalls (engine : Engine Program) (hooks : List (ResolvedHooks Program)) :
    (left : Nat) → Progress → List (Call Program)
  | 0, _ => []
  | left + 1, p =>
    let next := pass engine hooks p
    passCalls engine hooks p ++ if next.converged then [] else iterateCalls engine hooks left next

/-- The calls of the last derivation, if there is one. -/
def settleCalls (hooks : List (ResolvedHooks Program)) (p : Progress) : List (Call Program) :=
  if p.converged then [] else deriveCalls hooks p.elements

def runCalls (engine : Engine Program) (hooks : List (ResolvedHooks Program)) (limit : Nat)
    (elements : List Element) : List (Call Program) :=
  iterateCalls engine hooks (max limit 1) { elements } ++
    settleCalls hooks (iterate engine hooks (max limit 1) { elements })

/-- **The calls of an evaluation**, in the order they are made. -/
def calls (engine : Engine Program) (limit : Nat) (s : Snapshot) : List (Call Program) :=
  runCalls engine (s.elements.map engine.hooksOf) limit s.elements

/-! ## Failures are those of calls -/

theorem askCondition_snd (engine : Engine Program) (views : List Script.Value)
    (own : Script.Value) (id : String) {kind : HookKind} (hkind : kind ≠ .getOptions)
    (default : Bool) (hook : Option (Callable Program)) :
    (askCondition engine views own id kind default hook).2 =
      Call.diagnostics engine (hook.map fun hook => ⟨id, kind, hook, views, own⟩).toList := by
  cases hook with
  | none => rfl
  | some hook =>
    simp only [askCondition, Call.diagnostics, Option.map_some, Option.toList_some,
      List.filterMap_cons, List.filterMap_nil, Call.diagnostic?, Call.fault?]
    cases kind with
    | getOptions => exact absurd rfl hkind
    | _ => cases engine.ask hook views own <;> rfl

theorem askOptions_snd (engine : Engine Program) (views : List Script.Value) (own : Script.Value)
    (id : String) (hook : Option (Callable Program)) :
    (askOptions engine views own id hook).2 =
      Call.diagnostics engine
        (hook.map fun hook => ⟨id, .getOptions, hook, views, own⟩).toList := by
  cases hook with
  | none => rfl
  | some hook =>
    simp only [askOptions, Call.diagnostics, Option.map_some, Option.toList_some,
      List.filterMap_cons, List.filterMap_nil, Call.diagnostic?, Call.fault?]
    cases (optionsOf (engine.ask hook views own)).2 <;> rfl

/-- The calls for one element, kind by kind. -/
theorem callsOf_eq (views : List Script.Value) (e : Element) (hooks : ResolvedHooks Program) :
    callsOf views e hooks =
      (hooks.showIf.map fun hook =>
        ⟨e.id, .showIf, hook, views, Script.elementView e⟩).toList ++
      (if e.capabilities.readOnly then []
        else (hooks.disableIf.map fun hook =>
          ⟨e.id, .disableIf, hook, views, Script.elementView e⟩).toList) ++
      (if e.capabilities.options then (hooks.getOptions.map fun hook =>
          ⟨e.id, .getOptions, hook, views, Script.elementView e⟩).toList
        else []) := by
  simp only [callsOf, HookKind.all, List.filter_cons, List.filter_nil, asks]
  cases e.capabilities.readOnly <;> cases e.capabilities.options <;>
    simp [ResolvedHooks.get]

theorem deriveOne_snd (engine : Engine Program) (views : List Script.Value) (e : Element)
    (hooks : ResolvedHooks Program) :
    (deriveOne engine views (Script.elementView e) e hooks).2 =
      Call.diagnostics engine (callsOf views e hooks) := by
  have hshow : HookKind.showIf ≠ .getOptions := nofun
  have hdisable : HookKind.disableIf ≠ .getOptions := nofun
  rw [callsOf_eq, Call.diagnostics_append, Call.diagnostics_append]
  simp only [deriveOne, askCondition_snd engine views _ e.id hshow]
  cases e.capabilities.readOnly <;> cases e.capabilities.options <;>
    simp only [Bool.false_eq_true, if_false, if_true, Call.diagnostics_nil, askOptions_snd,
      askCondition_snd engine views _ e.id hdisable]

theorem derive_snd (engine : Engine Program) (hooks : List (ResolvedHooks Program))
    (es : List Element) :
    (derive engine hooks es).2 = Call.diagnostics engine (deriveCalls hooks es) := by
  rw [derive, deriveCalls]
  generalize Script.elementViews es = views
  induction es generalizing hooks with
  | nil => cases hooks <;> rfl
  | cons e es ih =>
    cases hooks with
    | nil => rfl
    | cons h hooks =>
      rw [List.zip_cons_cons, List.flatMap_cons, Call.diagnostics_append, ← ih, ← deriveOne_snd]
      rfl

end Evaluation

namespace Reaction

theorem write_diagnostics (r : Reaction) (w : ValueWrite) :
    (r.write w).diagnostics = r.diagnostics := by
  rcases write_cases r w with hw | ⟨e, -, -, hw⟩ <;> rw [hw]

theorem writes_diagnostics (writes : List ValueWrite) (r : Reaction) :
    (writes.foldl write r).diagnostics = r.diagnostics := by
  induction writes generalizing r with
  | nil => rfl
  | cons w ws ih => rw [List.foldl_cons, ih, write_diagnostics]

theorem callsAt_eq {r : Reaction} {place : Nat} {e : Element} {view : Script.Value}
    (he : r.elements[place]? = some e) (hview : r.views[place]? = some view)
    (hook : Callable Program) :
    r.callsAt place hook = [⟨e.id, .onValueChanged, hook, r.views, view⟩] := by
  simp only [callsAt, he, hview]

/-- Where there is no element, nothing is called and nothing happens. -/
theorem callAt_absent {r : Reaction} {place : Nat}
    (h : r.elements[place]? = none ∨ r.views[place]? = none) (engine : Engine Program)
    (hook : Callable Program) : r.callAt engine place hook = r ∧ r.callsAt place hook = [] := by
  simp only [callAt, callsAt]
  rcases h with h | h <;> cases hother : r.elements[place]? <;> simp_all

/-- A call that reacts fails just if asking the hook for its result would. -/
theorem callAt_diagnostics (engine : Engine Program) (place : Nat) (hook : Callable Program)
    (r : Reaction) :
    (r.callAt engine place hook).diagnostics =
      r.diagnostics ++ Call.diagnostics engine (r.callsAt place hook) := by
  cases he : r.elements[place]? with
  | none =>
    obtain ⟨hcall, hcalls⟩ := callAt_absent (.inl he) engine hook
    rw [hcall, hcalls, Call.diagnostics_nil, List.append_nil]
  | some e =>
    cases hview : r.views[place]? with
    | none =>
      obtain ⟨hcall, hcalls⟩ := callAt_absent (.inr hview) engine hook
      rw [hcall, hcalls, Call.diagnostics_nil, List.append_nil]
    | some view =>
      simp only [callsAt_eq he hview, Call.diagnostics, List.filterMap_cons, List.filterMap_nil,
        Call.diagnostic?, Call.fault?, Engine.ask, callAt, he, hview]
      cases engine.callHook hook r.views view with
      | error error => rfl
      | ok answer =>
        cases answer with
        | none => exact (List.append_nil _).symm
        | some i =>
          cases hjson : i.json? with
          | error error =>
            simp only [Evaluation.collectWrites_error r.elements r.views place hjson, hjson]
            rfl
          | ok result =>
            obtain ⟨writes, hwrites⟩ := Evaluation.collectWrites_ok r.elements r.views place hjson
            simp only [hwrites, hjson]
            exact (writes_diagnostics _ r).trans (List.append_nil _).symm

theorem callFrom_diagnostics (engine : Engine Program) (place : Nat)
    (hooks : List (ResolvedHooks Program)) (r : Reaction) :
    (r.callFrom engine place hooks).diagnostics =
      r.diagnostics ++ Call.diagnostics engine (r.callsFrom engine place hooks) := by
  induction hooks generalizing place r with
  | nil => exact (List.append_nil _).symm
  | cons h rest ih =>
    simp only [callFrom, callsFrom]
    cases h.onValueChanged with
    | none => exact ih _ r
    | some hook =>
      simp only [ih, callAt_diagnostics, Call.diagnostics_append, List.append_assoc]

end Reaction

namespace Evaluation

variable (engine : Engine Program) (hooks : List (ResolvedHooks Program))

theorem pass_faults (p : Progress) :
    (pass engine hooks p).faults = p.faults ++ Call.diagnostics engine (passCalls engine hooks p) := by
  have hreact := Reaction.callFrom_diagnostics engine 0 hooks
    (Reaction.start (derive engine hooks p.elements).1 p.changed)
  simp only [passCalls, Call.diagnostics_append, ← derive_snd, ← List.append_assoc]
  exact congrArg (p.faults ++ (derive engine hooks p.elements).2 ++ ·) hreact

theorem iterate_faults (left : Nat) (p : Progress) :
    (iterate engine hooks left p).faults =
      p.faults ++ Call.diagnostics engine (iterateCalls engine hooks left p) := by
  induction left generalizing p with
  | zero => exact (List.append_nil _).symm
  | succ left ih =>
    simp only [iterate, iterateCalls, Call.diagnostics_append]
    rw [← List.append_assoc, ← pass_faults]
    split
    · exact (List.append_nil _).symm
    · exact ih _

/-- **Every failure is reported once**, in the order of the calls. -/
theorem run_faults (limit : Nat) (es : List Element) :
    (run engine hooks limit es).faults =
      Call.diagnostics engine (runCalls engine hooks limit es) := by
  rw [run, runCalls, Call.diagnostics_append]
  have hiterate := iterate_faults engine hooks (max limit 1) { elements := es }
  rw [List.nil_append] at hiterate
  rw [← hiterate, settle, settleCalls]
  split
  · exact (List.append_nil _).symm
  · rw [← derive_snd]

/-- What is reported of a call is that it fails. -/
theorem run_faults_kind {limit : Nat} {es : List Element} {d : Diagnostic}
    (h : d ∈ (run engine hooks limit es).faults) : d.kind = .hookFault := by
  rw [run_faults] at h
  obtain ⟨c, -, hc⟩ := List.mem_filterMap.1 h
  obtain ⟨error, -, rfl⟩ := Option.map_eq_some_iff.1 hc
  rfl

end Evaluation

/-! ## Whose hooks are called -/

/-- A call of a hook that one of these elements has. -/
def Call.Among (engine : Engine Program) (es : List Element) (c : Call Program) : Prop :=
  ∃ e ∈ es, e.id = c.id ∧ engine.hookOf? e c.kind = some c.hook

theorem Call.Among.of_frame {engine : Engine Program} {es es' : List Element} {c : Call Program}
    (hc : c.Among engine es') (h : es'.map Element.frame = es.map Element.frame) :
    c.Among engine es := by
  obtain ⟨e', he', hid, hhook⟩ := hc
  obtain ⟨e, he, hframe⟩ := mem_of_frame h he'
  refine ⟨e, he, (Element.id_eq_of_frame hframe).trans hid, ?_⟩
  rw [Engine.hookOf?, Element.hooks_eq_of_frame hframe]
  exact hhook

namespace Evaluation

variable {engine : Engine Program} {es : List Element}

theorem mem_callsOf {views : List Script.Value} {e : Element} {hooks : ResolvedHooks Program}
    {c : Call Program} :
    c ∈ callsOf views e hooks ↔ ∃ kind hook, asks e kind = true ∧ hooks.get kind = some hook ∧
      c = ⟨e.id, kind, hook, views, Script.elementView e⟩ := by
  have hall (kind : HookKind) : kind ∈ HookKind.all := by cases kind <;> decide
  simp only [callsOf, List.mem_flatMap, List.mem_filter, hall, true_and, Option.mem_toList,
    Option.map_eq_some_iff]
  constructor
  · rintro ⟨kind, hasks, hook, hhook, rfl⟩
    exact ⟨kind, hook, hasks, hhook, rfl⟩
  · rintro ⟨kind, hook, hasks, hhook, rfl⟩
    exact ⟨kind, hasks, hook, hhook, rfl⟩

/-- With the hooks that belong to them, elements are asked one by one. -/
theorem deriveCalls_eq_flatMap (engine : Engine Program) (es : List Element) :
    deriveCalls (es.map engine.hooksOf) es =
      es.flatMap fun e => callsOf (Script.elementViews es) e (engine.hooksOf e) := by
  rw [deriveCalls]
  generalize Script.elementViews es = views
  induction es with
  | nil => rfl
  | cons e es ih => rw [List.map_cons, List.zip_cons_cons, List.flatMap_cons, List.flatMap_cons, ih]

theorem deriveCalls_among {es' : List Element}
    (h : es'.map Element.frame = es.map Element.frame) {c : Call Program}
    (hc : c ∈ deriveCalls (es.map engine.hooksOf) es') : c.Among engine es := by
  rw [← Engine.map_hooksOf_eq engine h, deriveCalls_eq_flatMap] at hc
  obtain ⟨e, he, hc⟩ := List.mem_flatMap.1 hc
  obtain ⟨kind, hook, -, hhook, rfl⟩ := mem_callsOf.1 hc
  rw [Engine.hooksOf_get] at hhook
  exact Call.Among.of_frame ⟨e, he, rfl, hhook⟩ h

/-- The reactions of elements call hooks of these elements. -/
theorem callsFrom_among {es' : List Element} (rest front : List Element) {r : Reaction}
    (ht : r.Tracks es') (h : es'.map Element.frame = (front ++ rest).map Element.frame)
    {c : Call Program} (hc : c ∈ r.callsFrom engine front.length (rest.map engine.hooksOf)) :
    c.Among engine (front ++ rest) := by
  induction rest generalizing front r with
  | nil => cases hc
  | cons e₀ rest ih =>
    obtain ⟨e, he, hframe, hview⟩ := ht.at_front h
    have ih {r : Reaction} := ih (front ++ [e₀]) (r := r)
    rw [List.append_assoc, List.singleton_append, List.length_append, List.length_singleton] at ih
    simp only [List.map_cons, Reaction.callsFrom] at hc
    cases hhook : (engine.hooksOf e₀).onValueChanged with
    | none =>
      simp only [hhook] at hc
      exact ih ht h hc
    | some hook =>
      simp only [hhook, List.mem_append, Reaction.callsAt_eq he hview, List.mem_singleton] at hc
      rcases hc with rfl | hc
      · exact ⟨e₀, List.mem_append_right _ List.mem_cons_self,
          (Element.id_eq_of_frame hframe).symm, hhook⟩
      · exact ih (ht.callAt engine front.length hook) h hc

theorem passCalls_among {p : Progress}
    (hp : p.elements.map Element.frame = es.map Element.frame) {c : Call Program}
    (hc : c ∈ passCalls engine (es.map engine.hooksOf) p) : c.Among engine es := by
  rcases List.mem_append.1 hc with hc | hc
  · exact deriveCalls_among hp hc
  · exact callsFrom_among es [] (Reaction.Tracks.start _ p.changed)
      ((derive_frame engine _ p.elements).trans hp) hc

theorem iterateCalls_among (left : Nat) {p : Progress}
    (hp : p.elements.map Element.frame = es.map Element.frame) {c : Call Program}
    (hc : c ∈ iterateCalls engine (es.map engine.hooksOf) left p) : c.Among engine es := by
  induction left generalizing p with
  | zero => cases hc
  | succ left ih =>
    rcases List.mem_append.1 hc with hc | hc
    · exact passCalls_among hp hc
    · split at hc
      · cases hc
      · exact ih ((pass_frame engine _ p).trans hp) hc

/-- **An evaluation calls hooks of its elements** and no others. -/
theorem calls_among {limit : Nat} {s : Snapshot} {c : Call Program}
    (hc : c ∈ calls engine limit s) : c.Among engine s.elements := by
  rcases List.mem_append.1 hc with hc | hc
  · exact iterateCalls_among (p := { elements := s.elements }) _ rfl hc
  · rw [settleCalls] at hc
    split at hc
    · cases hc
    · exact deriveCalls_among (iterate_frame engine _ _ _) hc

end Evaluation

end LiveForm

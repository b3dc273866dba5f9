import LiveForm.Evaluation.React
import LiveForm.Proofs.Form.Frame

/-!
# Reacting, write by write

A pass of reactions is a run of writes, with reports of failures in between. So what one write keeps and a
report keeps, the pass keeps (`callFrom_induction`). Three such facts are used everywhere
(`Reaction.Tracks`): the state has the frames it started with, the views that are carried along are those
of the state, and a pass that has not been noted as dirty has left every element as it was.
-/

namespace LiveForm

variable {Program : Type}

namespace Reaction

/-- A reaction with a failure reported. -/
def report (r : Reaction) (d : Diagnostic) : Reaction :=
  { r with diagnostics := r.diagnostics ++ [d] }

theorem write_of_same {r : Reaction} {w : ValueWrite} {e : Element}
    (he : r.elements[w.place]? = some e) (hs : e.value.same (e.clamp w.value) = true) :
    r.write w = r := by
  simp only [write, he, if_pos hs]

theorem write_of_not_same {r : Reaction} {w : ValueWrite} {e : Element}
    (he : r.elements[w.place]? = some e) (hs : e.value.same (e.clamp w.value) = false) :
    r.write w =
      { r with
        elements := r.elements.set w.place { e with value := e.clamp w.value }
        views := r.views.set w.place (Script.elementView { e with value := e.clamp w.value })
        changed := note r.changed e.id
        dirty := true } := by
  simp only [write, he, hs, Bool.false_eq_true, if_false]

/-- **A write** does nothing, or puts a value of its own into range and in place. -/
theorem write_cases (r : Reaction) (w : ValueWrite) :
    r.write w = r ∨
    ∃ e, r.elements[w.place]? = some e ∧ e.value.same (e.clamp w.value) = false ∧
      r.write w =
        { r with
          elements := r.elements.set w.place { e with value := e.clamp w.value }
          views := r.views.set w.place (Script.elementView { e with value := e.clamp w.value })
          changed := note r.changed e.id
          dirty := true } := by
  cases he : r.elements[w.place]? with
  | none =>
    left
    simp only [write, he]
  | some e =>
    cases hs : e.value.same (e.clamp w.value) with
    | true => exact .inl (write_of_same he hs)
    | false => exact .inr ⟨e, rfl, hs, write_of_not_same he hs⟩

/-- A write touches values only. -/
theorem write_withoutValue (r : Reaction) (w : ValueWrite) :
    (r.write w).elements.map Element.withoutValue = r.elements.map Element.withoutValue := by
  rcases write_cases r w with hw | ⟨e, he, -, hw⟩
  · rw [hw]
  · obtain ⟨hlt, rfl⟩ := List.getElem?_eq_some_iff.1 he
    rw [hw, List.map_set]
    show List.set _ w.place (Element.withoutValue r.elements[w.place]) = _
    rw [← List.getElem_map Element.withoutValue, List.set_getElem_self]
    rw [List.length_map]
    exact hlt

theorem write_frame (r : Reaction) (w : ValueWrite) :
    (r.write w).elements.map Element.frame = r.elements.map Element.frame :=
  frames_eq_of_withoutValue (write_withoutValue r w)

/-- **A call** reports a failure, or makes the writes of a run. -/
theorem callAt_cases (engine : Engine Program) (place : Nat) (hook : Callable Program)
    (r : Reaction) :
    (∃ d, r.callAt engine place hook = r.report d) ∨
      ∃ writes : List ValueWrite, r.callAt engine place hook = writes.foldl write r := by
  simp only [callAt]
  split
  · next e view he hview =>
    split
    · exact .inl ⟨_, rfl⟩
    · exact .inr ⟨[], rfl⟩
    · next i hi =>
      split
      · exact .inl ⟨_, rfl⟩
      · next writes hw => exact .inr ⟨writes, rfl⟩
  · exact .inr ⟨[], rfl⟩

/-- What writes and reports keep, a pass keeps. -/
theorem callFrom_induction {P : Reaction → Prop} (hwrite : ∀ r w, P r → P (r.write w))
    (hreport : ∀ r d, P r → P (r.report d)) (engine : Engine Program) (place : Nat)
    (hooks : List (ResolvedHooks Program)) {r : Reaction} (hr : P r) :
    P (r.callFrom engine place hooks) := by
  have hwrites : ∀ (writes : List ValueWrite) (r : Reaction), P r → P (writes.foldl write r) := by
    intro writes
    induction writes with
    | nil => exact fun _ hr => hr
    | cons w ws ih => exact fun r hr => ih _ (hwrite r w hr)
  induction hooks generalizing place r with
  | nil => exact hr
  | cons h rest ih =>
    simp only [callFrom]
    cases h.onValueChanged with
    | none => exact ih _ hr
    | some hook =>
      refine ih _ ?_
      rcases callAt_cases engine place hook r with ⟨d, hd⟩ | ⟨writes, hw⟩
      · simp only [hd]
        exact hreport r d hr
      · simp only [hw]
        exact hwrites writes r hr

/-- Without hooks that react to values nothing happens. -/
theorem callFrom_of_silent (engine : Engine Program) (place : Nat)
    {hooks : List (ResolvedHooks Program)} (h : ∀ own ∈ hooks, own.onValueChanged = none)
    (r : Reaction) : r.callFrom engine place hooks = r := by
  induction hooks generalizing place with
  | nil => rfl
  | cons own rest ih =>
    obtain ⟨hown, hrest⟩ := List.forall_mem_cons.1 h
    simp only [callFrom, hown]
    exact ih (place + 1) hrest

/-! ## What every pass keeps -/

/-- A reaction that started with some elements and has kept track of what happened to them. -/
structure Tracks (es : List Element) (r : Reaction) : Prop where
  /-- Values apart, the elements are those of the start. -/
  kept : r.elements.map Element.withoutValue = es.map Element.withoutValue
  /-- The views are those of the elements. -/
  shown : r.views = Script.elementViews r.elements
  /-- Without a write nothing has changed. -/
  clean : r.dirty = false → r.elements = es

theorem Tracks.start (es : List Element) (changed : List String) :
    Tracks es (Reaction.start es changed) :=
  ⟨rfl, rfl, fun _ => rfl⟩

theorem Tracks.write {es : List Element} {r : Reaction} (h : Tracks es r) (w : ValueWrite) :
    Tracks es (r.write w) := by
  refine ⟨(write_withoutValue r w).trans h.kept, ?_, ?_⟩
  · rcases write_cases r w with hw | ⟨e, -, -, hw⟩
    · rw [hw]
      exact h.shown
    · rw [hw]
      show _ = (List.set _ _ _).map _
      rw [List.map_set, h.shown, Script.elementViews]
  · rcases write_cases r w with hw | ⟨e, -, -, hw⟩
    · rw [hw]
      exact h.clean
    · rw [hw]
      exact nofun

theorem Tracks.callFrom {es : List Element} {r : Reaction} (h : Tracks es r)
    (engine : Engine Program) (place : Nat) (hooks : List (ResolvedHooks Program)) :
    Tracks es (r.callFrom engine place hooks) :=
  callFrom_induction (fun _ w h => h.write w) (fun _ _ h => ⟨h.kept, h.shown, h.clean⟩)
    engine place hooks h

/-- One call is a pass of a single hook. -/
theorem Tracks.callAt {es : List Element} {r : Reaction} (h : Tracks es r)
    (engine : Engine Program) (place : Nat) (hook : Callable Program) :
    Tracks es (r.callAt engine place hook) :=
  h.callFrom engine place [{ onValueChanged := some hook }]

theorem Tracks.frame {es : List Element} {r : Reaction} (h : Tracks es r) :
    r.elements.map Element.frame = es.map Element.frame :=
  frames_eq_of_withoutValue h.kept

theorem Tracks.length {es : List Element} {r : Reaction} (h : Tracks es r) :
    r.elements.length = es.length := length_eq_of_frame h.frame

theorem Tracks.length_views {es : List Element} {r : Reaction} (h : Tracks es r) :
    r.views.length = r.elements.length := by
  rw [h.shown, Script.elementViews, List.length_map]

/-- What stands at a place: the element that was there at the start, in its present state, and its
view. -/
theorem Tracks.at_front {es front rest : List Element} {e₀ : Element} {r : Reaction}
    (h : Tracks es r) (hes : es.map Element.frame = (front ++ e₀ :: rest).map Element.frame) :
    ∃ e, r.elements[front.length]? = some e ∧ e.frame = e₀.frame ∧
      r.views[front.length]? = some (Script.elementView e) := by
  have hframe := congrArg (·[front.length]?) (h.frame.trans hes)
  have hplace : (front ++ e₀ :: rest)[front.length]? = some e₀ := by
    rw [List.getElem?_append_right (Nat.le_refl _), Nat.sub_self]
    rfl
  simp only [List.getElem?_map, hplace, Option.map_some, Option.map_eq_some_iff] at hframe
  obtain ⟨e, he, hframe⟩ := hframe
  refine ⟨e, he, hframe, ?_⟩
  rw [h.shown, Script.elementViews, List.getElem?_map, he, Option.map_some]

end Reaction

namespace Evaluation

/-- What a run writes is not known if its result has no JSON form, and for no other reason. -/
theorem collectWrites_error (es : List Element) (views : List Script.Value) (own : Nat)
    {i : Invocation} {error : ScriptError} (h : i.json? = .error error) :
    collectWrites es views own i = .error error := by
  simp only [collectWrites, h]
  rfl

theorem collectWrites_ok (es : List Element) (views : List Script.Value) (own : Nat)
    {i : Invocation} {result : Json} (h : i.json? = .ok result) :
    ∃ writes, collectWrites es views own i = .ok writes := by
  simp only [collectWrites, h]
  exact ⟨_, rfl⟩

theorem react_tracks (engine : Engine Program) (hooks : List (ResolvedHooks Program))
    (es : List Element) (changed : List String) :
    Reaction.Tracks es (react engine hooks es changed) :=
  (Reaction.Tracks.start es changed).callFrom engine 0 hooks

end Evaluation

end LiveForm

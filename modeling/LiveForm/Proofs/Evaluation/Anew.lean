import LiveForm.Proofs.Evaluation.Calls
import LiveForm.Proofs.Script.Views

/-!
# The form shown anew

A pass of reactions carries the views of the elements along and renews the view of what is written, one by
one. Beside it stands here a pass that carries none: before every call it shows the form anew, all of it, from
the elements as they are (`Anew.callFrom`). **The two are the same pass** (`react_anew`). What makes them so is
that the views that are carried along are those of the elements at every call, and not only at the end
(`Tracks.shown`), however a call before has come out.

Of the pass that shows the form anew it is plain what a hook is called with: the views of what the hooks
before it have left, and its own view among them (`Call.shown?`).
-/

namespace LiveForm

variable {Program : Type}

/-- The state of a pass that carries no views along. -/
structure Anew where
  elements : List Element
  changed : List String := []
  dirty : Bool := false
  diagnostics : List Diagnostic := []

namespace Anew

/-- One write. -/
def write (q : Anew) (w : ValueWrite) : Anew :=
  match q.elements[w.place]? with
  | none => q
  | some e =>
    if e.value.same (e.clamp w.value) then q
    else
      { q with
        elements := q.elements.set w.place { e with value := e.clamp w.value }
        changed := Reaction.note q.changed e.id
        dirty := true }

/-- The hook at a place, called with the views of the elements as they are. -/
def callAt (engine : Engine Program) (place : Nat) (hook : Callable Program) (q : Anew) : Anew :=
  match q.elements[place]? with
  | none => q
  | some e =>
    let views := Script.elementViews q.elements
    let failed (error : ScriptError) : Anew :=
      { q with diagnostics := q.diagnostics ++ [.hookFault e.id .onValueChanged error] }
    match engine.callHook hook views (Script.elementView e) with
    | .error error => failed error
    | .ok none => q
    | .ok (some i) =>
      match Evaluation.collectWrites q.elements views place i with
      | .error error => failed error
      | .ok writes => writes.foldl write q

/-- The hooks from a place on, called one after the other. -/
def callFrom (engine : Engine Program) (place : Nat) (q : Anew) :
    List (ResolvedHooks Program) → Anew
  | [] => q
  | own :: rest =>
    let next := match own.onValueChanged with
      | some hook => q.callAt engine place hook
      | none => q
    next.callFrom engine (place + 1) rest

end Anew

namespace Evaluation

/-- A pass of all hooks that react to values, with the form shown anew to each. -/
def reactAnew (engine : Engine Program) (hooks : List (ResolvedHooks Program)) (es : List Element)
    (changed : List String) : Anew :=
  Anew.callFrom engine 0 { elements := es, changed } hooks

end Evaluation

/-- The call of the hook at a place, where the elements are these: with the views of all and its own. -/
def Call.shown? (es : List Element) (place : Nat) (own : ResolvedHooks Program) :
    Option (Call Program) := do
  let hook ← own.onValueChanged
  let e ← es[place]?
  some ⟨e.id, .onValueChanged, hook, Script.elementViews es, Script.elementView e⟩

namespace Reaction

/-! ## Without the views -/

/-- A reaction with its views forgotten. -/
def forget (r : Reaction) : Anew := ⟨r.elements, r.changed, r.dirty, r.diagnostics⟩

/-- A write looks at no views. -/
theorem write_forget (r : Reaction) (w : ValueWrite) : (r.write w).forget = r.forget.write w := by
  cases he : r.elements[w.place]? with
  | none =>
    have he' : r.forget.elements[w.place]? = none := he
    simp only [write, Anew.write, he, he']
  | some e =>
    have he' : r.forget.elements[w.place]? = some e := he
    simp only [Anew.write, he']
    cases hsame : e.value.same (e.clamp w.value) with
    | true => rw [write_of_same he hsame, if_pos rfl]
    | false =>
      rw [write_of_not_same he hsame, if_neg Bool.false_ne_true]
      rfl

theorem writes_forget (writes : List ValueWrite) (r : Reaction) :
    (writes.foldl write r).forget = writes.foldl Anew.write r.forget :=
  (List.foldl_hom forget fun r w => (write_forget r w).symm).symm

/-- **A call** with the views that are carried along is a call with the form shown anew, if they are the
views of the elements. -/
theorem callAt_forget {r : Reaction} (hshown : r.views = Script.elementViews r.elements)
    (engine : Engine Program) (place : Nat) (hook : Callable Program) :
    (r.callAt engine place hook).forget = r.forget.callAt engine place hook := by
  have helements : r.forget.elements = r.elements := rfl
  simp only [callAt, Anew.callAt, helements]
  cases he : r.elements[place]? with
  | none => rfl
  | some e =>
    have hview : r.views[place]? = some (Script.elementView e) :=
      hshown ▸ Script.getElem?_elementViews he
    simp only [hview, ← hshown]
    cases engine.callHook hook r.views (Script.elementView e) with
    | error error => rfl
    | ok answer =>
      cases answer with
      | none => rfl
      | some i =>
        cases hwrites : Evaluation.collectWrites r.elements r.views place i with
        | error error => simp only [hwrites]; rfl
        | ok writes =>
          simp only [hwrites]
          exact writes_forget writes r

theorem callFrom_forget {es : List Element} {r : Reaction} (h : Tracks es r) (engine : Engine Program)
    (place : Nat) (hooks : List (ResolvedHooks Program)) :
    (r.callFrom engine place hooks).forget = r.forget.callFrom engine place hooks := by
  induction hooks generalizing place r with
  | nil => rfl
  | cons own rest ih =>
    simp only [callFrom, Anew.callFrom]
    cases own.onValueChanged with
    | none => exact ih h (place + 1)
    | some hook =>
      simp only [ih (h.callAt engine place hook), callAt_forget h.shown]

/-! ## What hooks are called with -/

/-- Hooks are called one after the other. -/
theorem callFrom_append (engine : Engine Program) (place : Nat) (r : Reaction)
    (front rest : List (ResolvedHooks Program)) :
    r.callFrom engine place (front ++ rest) =
      (r.callFrom engine place front).callFrom engine (place + front.length) rest := by
  induction front generalizing place r with
  | nil => rfl
  | cons own front ih =>
    have hplace : place + 1 + front.length = place + (own :: front).length := by
      rw [List.length_cons]
      omega
    simp only [List.cons_append, callFrom, ih, hplace]

/-- The hook at a place is called with the elements shown, if the views are theirs. -/
theorem callsAt_shown {r : Reaction} (hshown : r.views = Script.elementViews r.elements) (place : Nat)
    {own : ResolvedHooks Program} {hook : Callable Program} (hown : own.onValueChanged = some hook) :
    r.callsAt place hook = (Call.shown? r.elements place own).toList := by
  cases he : r.elements[place]? with
  | none =>
    simp only [callsAt, Call.shown?, hown, he, Option.bind_eq_bind, Option.bind_none, Option.bind_some,
      Option.toList_none]
  | some e =>
    have hview : r.views[place]? = some (Script.elementView e) :=
      hshown ▸ Script.getElem?_elementViews he
    simp only [callsAt_eq he hview, Call.shown?, hown, he, Option.bind_eq_bind, Option.bind_some,
      Option.toList_some, hshown]

/-- **The calls** of the hooks of a pass show what the hooks before have left. -/
theorem callsFrom_shown (engine : Engine Program) (es : List Element) (changed : List String)
    (front rest : List (ResolvedHooks Program)) :
    ((start es changed).callFrom engine 0 front).callsFrom engine front.length rest =
      (rest.zipIdx front.length).filterMap fun (own, place) =>
        Call.shown? (Evaluation.reactAnew engine ((front ++ rest).take place) es changed).elements place
          own := by
  induction rest generalizing front with
  | nil => rfl
  | cons own rest ih =>
    have htracks := (Tracks.start es changed).callFrom engine 0 front
    have hbefore :
        (Evaluation.reactAnew engine ((front ++ own :: rest).take front.length) es changed).elements =
          ((start es changed).callFrom engine 0 front).elements := by
      rw [List.take_left]
      exact (congrArg Anew.elements (callFrom_forget (Tracks.start es changed) engine 0 front)).symm
    -- the hook itself is the last one in front of those that follow
    have hrest := ih (front ++ [own])
    rw [callFrom_append, Nat.zero_add, List.length_append, List.append_assoc] at hrest
    simp only [List.zipIdx_cons, List.filterMap_cons, hbefore]
    simp only [callFrom, callsFrom, List.length_singleton, List.singleton_append] at hrest ⊢
    cases hown : own.onValueChanged with
    | none =>
      simp only [hown, Call.shown?, Option.bind_eq_bind, Option.bind_none] at hrest ⊢
      exact hrest
    | some hook =>
      simp only [hown] at hrest
      simp only [callsAt_shown htracks.shown _ hown, hrest]
      cases Call.shown? _ front.length own <;> rfl

end Reaction

namespace Evaluation

/-- **The views never go stale.** A pass that carries the views of the elements along and renews those that
are written is a pass that shows the form anew before every call: the elements end the same, the same ids are
noted, it has written something just if the other has, and the same failures are reported. Its calls are, in
the order of the hooks, those of the hooks at their places with the form as the hooks before them have left it
in this pass, and nothing that a later one writes. -/
theorem react_anew (engine : Engine Program) (hooks : List (ResolvedHooks Program)) (es : List Element)
    (changed : List String) :
    let r := react engine hooks es changed
    let q := reactAnew engine hooks es changed
    r.elements = q.elements ∧ r.changed = q.changed ∧ r.dirty = q.dirty ∧
      r.diagnostics = q.diagnostics ∧ r.views = Script.elementViews q.elements ∧
      (Reaction.start es changed).callsFrom engine 0 hooks =
        hooks.zipIdx.filterMap fun (own, place) =>
          Call.shown? (reactAnew engine (hooks.take place) es changed).elements place own := by
  intro r q
  have htracks := Reaction.Tracks.start es changed
  have hsame : r.forget = q := Reaction.callFrom_forget htracks engine 0 hooks
  refine ⟨congrArg Anew.elements hsame, congrArg Anew.changed hsame, congrArg Anew.dirty hsame,
    congrArg Anew.diagnostics hsame, ?_, Reaction.callsFrom_shown engine es changed [] hooks⟩
  rw [← congrArg Anew.elements hsame]
  exact (htracks.callFrom engine 0 hooks).shown

end Evaluation

end LiveForm

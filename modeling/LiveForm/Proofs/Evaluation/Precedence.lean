import LiveForm.Proofs.Evaluation.Calls
import LiveForm.Proofs.Evaluation.Writes
import LiveForm.Proofs.Script.Assignment

/-!
# Which write of a call counts

A hook that reacts to values has three ways to write: values in its copy of the elements, the value in its
copy of its own element, and its result. What it writes is held against the values before the call, and then
put into the elements one after the other, moved into range, where a value that is the same as the one in place
is left out. All that remains of this is an order of precedence (`call_takes_effect`): for its own element the
result comes before the copy of the element, and that before the copy of all elements; of several items there
that edit one element the last counts.

What carries this is one fact about writes in a row: at every place they come to what the last of them at this
place would have come to alone (`writes_at`). A call that fails makes none of them.
-/

namespace LiveForm

variable {Program : Type}

/-! ## One value after the other -/

/-- What the value of an element may be when a last value has been wanted for it: the same as that one in
range, or its own if none was. -/
def Element.Becomes (e : Element) (wanted : Option Json) (value : Json) : Prop :=
  match wanted with
  | none => value = e.value
  | some v => value.same (e.clamp v) = true

/-- A value that is wanted later takes the place of one before. -/
theorem Element.Becomes.trans {e : Element} {wanted later : Option Json} {value value' : Json}
    (h : e.Becomes wanted value) (h' : ({ e with value } : Element).Becomes later value') :
    e.Becomes (later.or wanted) value' := by
  cases later with
  | none =>
    obtain rfl : value' = value := h'
    exact h
  | some v => exact h'

/-- The value of a write, if it is a write at this place. -/
def ValueWrite.at? (place : Nat) (w : ValueWrite) : Option Json :=
  if w.place = place then some w.value else none

/-- The values that writes want at a place, in their order. -/
def valuesAt (place : Nat) (writes : List ValueWrite) : List Json := writes.filterMap (·.at? place)

theorem valuesAt_cons (place : Nat) (w : ValueWrite) (writes : List ValueWrite) :
    valuesAt place (w :: writes) = (w.at? place).toList ++ valuesAt place writes := by
  rw [valuesAt, List.filterMap_cons]
  cases w.at? place <;> rfl

theorem valuesAt_append (place : Nat) (writes more : List ValueWrite) :
    valuesAt place (writes ++ more) = valuesAt place writes ++ valuesAt place more :=
  List.filterMap_append

namespace Reaction

theorem write_at {r : Reaction} {place : Nat} {e : Element} (he : r.elements[place]? = some e)
    (w : ValueWrite) : ∃ value, (r.write w).elements[place]? = some { e with value } ∧
      e.Becomes (w.at? place) value := by
  by_cases hplace : w.place = place
  · subst hplace
    rw [ValueWrite.at?, if_pos rfl]
    cases hsame : e.value.same (e.clamp w.value) with
    | true =>
      rw [write_of_same he hsame]
      exact ⟨e.value, he, hsame⟩
    | false =>
      rw [write_of_not_same he hsame]
      refine ⟨e.clamp w.value, ?_, Json.same_refl _⟩
      rw [List.getElem?_set_self (List.getElem?_eq_some_iff.1 he).1]
  · rw [ValueWrite.at?, if_neg hplace]
    refine ⟨e.value, ?_, rfl⟩
    rcases write_cases r w with hw | ⟨e', -, -, hw⟩
    · rw [hw]
      exact he
    · rw [hw, List.getElem?_set_ne hplace]
      exact he

/-- **Writes in a row** come at every place to the last value that is wanted there. -/
theorem writes_at (writes : List ValueWrite) {r : Reaction} {place : Nat} {e : Element}
    (he : r.elements[place]? = some e) :
    ∃ value, (writes.foldl write r).elements[place]? = some { e with value } ∧
      e.Becomes (valuesAt place writes).getLast? value := by
  induction writes generalizing r e with
  | nil => exact ⟨e.value, he, rfl⟩
  | cons w writes ih =>
    obtain ⟨first, hfirst, hbecomes⟩ := write_at he w
    obtain ⟨value, hvalue, hlater⟩ := ih hfirst
    refine ⟨value, hvalue, ?_⟩
    have hlast : (w.at? place).toList.getLast? = w.at? place := by cases w.at? place <;> rfl
    rw [valuesAt_cons, List.getLast?_append, hlast]
    exact hbecomes.trans hlater

end Reaction

/-! ## What a call wants -/

namespace Invocation

/-- The items of the array of elements, as a run has left it. Without an array there are none. -/
def items (i : Invocation) : List Script.Value :=
  match i.value? "elements" with
  | some (.array items) => items
  | _ => []

/-- The value that a run has put into its copy of the element itself, if it is another one. -/
def ownEdit? (i : Invocation) (e : Element) : Option Json :=
  (i.value? "element").bind fun view => view.viewValue?.filter fun v => !e.value.same v

end Invocation

namespace Evaluation

variable {es : List Element} {place : Nat} {e : Element}

/-- What one item of an array wants at the place of an element is its edit of this element. -/
theorem valuesAt_editWrites_singleton (hd : Distinct es) (he : es[place]? = some e)
    (item : Script.Value) :
    valuesAt place (editWrites es (Script.elementViews es) [item]) = (e.edit? item).toList := by
  rw [editWrites, List.filterMap_cons, Element.edit?]
  cases hid : item.viewId? with
  | none => simp [valuesAt]
  | some id =>
    cases hvalue : item.viewValue? with
    | none => simp [valuesAt]
    | some value =>
      by_cases hown : id = e.id
      · subst hown
        simp only [Option.bind_eq_bind, Option.bind_some, hd.findIdx? he,
          Script.getElem?_elementViews he, Script.same_viewValue?, if_true, Option.filter_some]
        cases e.value.same value <;> simp [valuesAt, ValueWrite.at?]
      · -- the id of another element, or of none
        rw [if_neg fun h => hown (Option.some.inj h)]
        simp only [Option.bind_eq_bind, Option.bind_some]
        cases hfind : es.findIdx? (·.id == id) with
        | none => simp [valuesAt]
        | some other =>
          have hother : other ≠ place := by
            rintro rfl
            obtain ⟨hlt, hid', -⟩ := List.findIdx?_eq_some_iff_getElem.1 hfind
            rw [(List.getElem?_eq_some_iff.1 he).2] at hid'
            exact hown (eq_of_beq hid').symm
          simp only [Option.bind_some]
          generalize Json.same _ value = unchanged
          cases unchanged <;> simp [valuesAt, ValueWrite.at?, hother]

/-- What the items of an array want at the place of an element are the edits of this element. -/
theorem valuesAt_editWrites (hd : Distinct es) (he : es[place]? = some e)
    (items : List Script.Value) :
    valuesAt place (editWrites es (Script.elementViews es) items) = e.edits items := by
  induction items with
  | nil => rfl
  | cons item items ih =>
    have hsplit : editWrites es (Script.elementViews es) (item :: items) =
        editWrites es (Script.elementViews es) [item] ++
          editWrites es (Script.elementViews es) items :=
      List.filterMap_append (l := [item])
    rw [hsplit, valuesAt_append, ih, valuesAt_editWrites_singleton hd he, Element.edits, Element.edits,
      List.filterMap_cons]
    cases e.edit? item <;> rfl

/-- The copy of the element itself wants something at its own place alone. -/
theorem valuesAt_ownWrites (own place : Nat) (e : Element) (view : Script.Value) :
    valuesAt place (ownWrites own e view) =
      if place = own then (view.viewValue?.filter fun v => !e.value.same v).toList else [] := by
  rw [ownWrites]
  cases view.viewValue? with
  | none => simp [valuesAt]
  | some v =>
    simp only [Option.filter_some]
    cases e.value.same v <;> by_cases hplace : place = own <;>
      simp [valuesAt, ValueWrite.at?, hplace, Ne.symm]

/-- The writes of a run that has a result are those of its three ways to write, one after the other. -/
theorem collectWrites_eq (es : List Element) (views : List Script.Value) {own : Nat}
    (he : es[own]? = some e) {i : Invocation} {result : Json} (hresult : i.json? = .ok result) :
    collectWrites es views own i =
      .ok (editWrites es views i.items ++ ((i.value? "element").map (ownWrites own e)).getD [] ++
        if result = .null then [] else [⟨own, result⟩]) := by
  simp only [collectWrites, Invocation.items, he, hresult]
  rcases i.value? "elements" with _ | v
  · cases i.value? "element" <;> rfl
  · cases v <;> cases i.value? "element" <;> rfl

end Evaluation

/-- The value that a call wants its own element to have: its result, or else the value in its copy of the
element, or else the last one in its copy of all elements. -/
def Invocation.wantsOwn? (i : Invocation) (result : Json) (e : Element) : Option Json :=
  (if result = .null then none else some result).or ((i.ownEdit? e).or (e.edits i.items).getLast?)

namespace Evaluation

/-- **What the writes of a run come to** at the place of its own element and at the others. -/
theorem collectWrites_last (hd : Distinct es) {own : Nat} {x : Element} (hx : es[own]? = some x)
    {i : Invocation} {result : Json} (hresult : i.json? = .ok result) :
    ∃ writes, collectWrites es (Script.elementViews es) own i = .ok writes ∧
      (valuesAt own writes).getLast? = i.wantsOwn? result x ∧
      ∀ place e, es[place]? = some e → place ≠ own →
        (valuesAt place writes).getLast? = (e.edits i.items).getLast? := by
  refine ⟨_, collectWrites_eq es _ hx hresult, ?_, fun place e he hplace => ?_⟩
  · have hresults : (valuesAt own (if result = .null then [] else [⟨own, result⟩])).getLast? =
        if result = .null then none else some result := by
      split <;> simp [valuesAt, ValueWrite.at?]
    have howns : (valuesAt own (((i.value? "element").map (ownWrites own x)).getD [])).getLast? =
        i.ownEdit? x := by
      rw [Invocation.ownEdit?]
      cases i.value? "element" with
      | none => rfl
      | some view =>
        rw [Option.map_some, Option.getD_some, valuesAt_ownWrites, if_pos rfl, Option.bind_some]
        cases view.viewValue?.filter fun v => !x.value.same v <;> rfl
    rw [valuesAt_append, valuesAt_append, List.getLast?_append, List.getLast?_append, hresults, howns,
      valuesAt_editWrites hd hx, Invocation.wantsOwn?]
  · have hresults : valuesAt place (if result = .null then [] else [⟨own, result⟩]) = [] := by
      split <;> simp [valuesAt, ValueWrite.at?, hplace.symm]
    have howns : valuesAt place (((i.value? "element").map (ownWrites own x)).getD []) = [] := by
      cases i.value? "element" with
      | none => rfl
      | some view => rw [Option.map_some, Option.getD_some, valuesAt_ownWrites, if_neg hplace]
    rw [valuesAt_append, valuesAt_append, hresults, howns, List.append_nil, List.append_nil,
      valuesAt_editWrites hd he]

end Evaluation

/-! ## Calls -/

namespace Reaction

section

variable {engine : Engine Program} {hook : Callable Program} {r : Reaction} {place : Nat} {e : Element}
  {view : Script.Value} (he : r.elements[place]? = some e) (hview : r.views[place]? = some view)

include he hview

/-- A hook that never compiled does nothing. -/
theorem callAt_of_nothing (h : engine.callHook hook r.views view = .ok none) :
    r.callAt engine place hook = r := by
  simp only [callAt, he, hview, h]

/-- A call that stops with a fault is a report. -/
theorem callAt_of_fault {error : ScriptError}
    (h : engine.callHook hook r.views view = .error error) :
    r.callAt engine place hook = r.report (.hookFault e.id .onValueChanged error) := by
  simp only [callAt, he, hview, h]
  rfl

/-- So is one whose result has no JSON form. -/
theorem callAt_of_resultless {i : Invocation} {error : ScriptError}
    (h : engine.callHook hook r.views view = .ok (some i)) (hresult : i.json? = .error error) :
    r.callAt engine place hook = r.report (.hookFault e.id .onValueChanged error) := by
  simp only [callAt, he, hview, h, Evaluation.collectWrites_error r.elements r.views place hresult]
  rfl

/-- A call that has a result makes its writes. -/
theorem callAt_of_writes {i : Invocation} {writes : List ValueWrite}
    (h : engine.callHook hook r.views view = .ok (some i))
    (hwrites : Evaluation.collectWrites r.elements r.views place i = .ok writes) :
    r.callAt engine place hook = writes.foldl write r := by
  simp only [callAt, he, hview, h, hwrites]

end

/-- **Precedence.** A call of a hook that reacts to values, in any state of a pass. If it stops with a fault,
or if its result has no JSON form, one failure is reported and that is all: no value changes, whatever was
edited. A hook that never compiled does nothing. If the call has a result, nothing but values changes, and
nothing is reported. Every other element ends with the value it had, if no item of the array of elements is an
edit of it, and else with one that is the same as the last edit of it moved into range. The element of the hook
ends with one that is the same as the result moved into range; if the result is `null`, as the value in the copy
of the element, if this is an edit; and if that is none, it does as the other elements do. -/
theorem call_takes_effect (engine : Engine Program) (hook : Callable Program) {r : Reaction} {own : Nat}
    {e : Element} {s : Snapshot} (htracks : Tracks s.elements r) (he : r.elements[own]? = some e) :
    let answer := engine.callHook hook r.views (Script.elementView e)
    let after := r.callAt engine own hook
    (answer = .ok none → after = r) ∧
    (∀ error, answer = .error error → after = r.report (.hookFault e.id .onValueChanged error)) ∧
    ∀ i, answer = .ok (some i) →
      (∀ error, i.json? = .error error →
        after = r.report (.hookFault e.id .onValueChanged error)) ∧
      ∀ result, i.json? = .ok result →
        after.diagnostics = r.diagnostics ∧
        after.elements.map Element.withoutValue = r.elements.map Element.withoutValue ∧
        ∀ place x, r.elements[place]? = some x → ∃ value,
          after.elements[place]? = some { x with value } ∧
          (place ≠ own → x.Becomes (x.edits i.items).getLast? value) ∧
          (place = own → x.Becomes (i.wantsOwn? result x) value) := by
  intro answer after
  have hd : Distinct r.elements := s.distinct.of_frame htracks.frame
  have hshown : r.views = Script.elementViews r.elements := htracks.shown
  have hview : r.views[own]? = some (Script.elementView e) := hshown ▸ Script.getElem?_elementViews he
  refine ⟨callAt_of_nothing he hview, fun error herror => callAt_of_fault he hview herror,
    fun i hi => ⟨fun error herror => ?_, fun result hresult => ?_⟩⟩
  · exact callAt_of_resultless he hview hi herror
  · obtain ⟨writes, hwrites, hown, hothers⟩ := Evaluation.collectWrites_last hd he hresult
    rw [← hshown] at hwrites
    have hafter : after = writes.foldl write r := callAt_of_writes he hview hi hwrites
    have hstart : Tracks r.elements r := ⟨rfl, hshown, fun _ => rfl⟩
    refine ⟨?_, (hstart.callAt engine own hook).kept, fun place x hx => ?_⟩
    · rw [hafter, writes_diagnostics]
    · obtain ⟨value, hvalue, hbecomes⟩ := writes_at writes hx
      rw [hafter]
      refine ⟨value, hvalue, fun hplace => ?_, fun hplace => ?_⟩
      · rw [← hothers place x hx hplace]
        exact hbecomes
      · subst hplace
        obtain rfl : x = e := Option.some.inj (hx.symm.trans he)
        rw [← hown]
        exact hbecomes

/-! ## A script that writes in all its ways -/

open Script

/-- A slider that is to be moved by a script. -/
def moved : Element := { id := "s", type := .slider, value := .int 4, min := some 0, max := some 10 }

/-- A number that is to be written by the script of another. -/
def beside : Element := { id := "n", type := .number, value := .int 3 }

/-- The script writes the other element, and its own copy beyond the range. -/
def writing : Script.Program :=
  assigning [.assignItem 1 1 "value" (.int 7), .assignOwn 24 "value" (.int 99)]

theorem run_writing :
    Sandbox.run {} writing [.array (elementViews [moved, beside]), elementView moved] =
      .ok ⟨.unit, [("element", elementView { moved with value := .int 99 }),
        ("elements", .array (elementViews [moved, { beside with value := .int 7 }]))]⟩ := by
  cbv

/-- The slider ends at its upper bound, and the number is the one that was written. -/
theorem call_takes_effect_writing :
    let s : Snapshot := ⟨[moved, beside], ∅, by decide⟩
    let r := start s.elements []
    let after := r.callAt (Sandbox.engine {}) 0 (.script writing)
    Tracks s.elements r ∧ r.elements[0]? = some moved ∧
      after.diagnostics = [] ∧
      (∃ value, after.elements[0]? = some { moved with value } ∧ value.same (.int 10) = true) ∧
      ∃ value, after.elements[1]? = some { beside with value } ∧ value.same (.int 7) = true := by
  intro s r after
  have htracks : Tracks s.elements r := Tracks.start s.elements []
  have hmoved : r.elements[0]? = some moved := rfl
  obtain ⟨-, -, hresult⟩ := call_takes_effect (Sandbox.engine {}) (.script writing) htracks hmoved
  have hcall : (Sandbox.engine {}).callHook (.script writing) r.views (elementView moved) =
      .ok (some ⟨.unit, [("element", elementView { moved with value := .int 99 }),
        ("elements", .array (elementViews [moved, { beside with value := .int 7 }]))]⟩) := by
    have hviews : r.views = elementViews [moved, beside] := rfl
    simp only [Engine.callHook, Sandbox.engine, hviews, run_writing]
    rfl
  obtain ⟨-, hwritten⟩ := hresult _ hcall
  obtain ⟨hdiagnostics, -, hvalues⟩ := hwritten .null rfl
  have hafter : after = r.callAt (Sandbox.engine {}) 0 (.script writing) := rfl
  rw [← hafter] at hdiagnostics hvalues
  clear_value after
  obtain ⟨first, hfirst, -, hown⟩ := hvalues 0 moved rfl
  obtain ⟨second, hsecond, hother, -⟩ := hvalues 1 beside rfl
  have hclamp : moved.clamp (.int 99) = .int 10 := by decide +kernel
  refine ⟨htracks, rfl, hdiagnostics, ⟨first, hfirst, ?_⟩, second, hsecond, ?_⟩
  · rw [← hclamp]
    exact hown rfl
  · exact hother (by decide)

end Reaction

end LiveForm

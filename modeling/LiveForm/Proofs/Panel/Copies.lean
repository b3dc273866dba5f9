import LiveForm.Proofs.Evaluation.Precedence
import LiveForm.Proofs.Panel.WriteBack

/-!
# Copies whose values are left alone

What a script does to the type, the title, the flags or the options in its copies of elements is its own affair:
nothing of it is read back. Two members are, the value and the id, and the id is read first. It says which
element an item is about, and the value of the item is held against that of this element, which need not be the
one the item was a copy of.

So a script that leaves all values alone writes nothing just if its copies are **honest**: if none of them has
the id of an element with another value (`only_values_written`). Copies whose ids are left alone are, whatever
else has been edited. The same holds of hooks and of the actions of buttons, since both read the same edits
(`Element.edits`). A copy that was given the id of another element carries its own value over
(`renamed_copy_written`).
-/

namespace LiveForm

open Script (Value)

variable {Program : Type}

/-! ## Items with the value of an element -/

/-- An item has the value that the view of an element has. Anything else in it may have been edited. -/
def Script.Value.KeepsValue (item : Value) (e : Element) : Prop :=
  item.member? "value" = some (Value.ofJson e.value)

/-- Copies of elements that pass for no element of another value: each element that one of them has the id of
has the value of the element it is a copy of. -/
def Honest (es : List Element) (copies : List (Element × Value)) : Prop :=
  ∀ c ∈ copies, ∀ e ∈ es, c.2.viewId? = some e.id → e.value.same c.1.value = true

section

variable {es : List Element} {copies : List (Element × Value)} {item : Value} {e x : Element}

theorem Script.Value.KeepsValue.viewValue? (h : item.KeepsValue x) :
    ∃ v, item.viewValue? = some v ∧ x.value.same v = true := by
  obtain ⟨v, hv, hs⟩ := Script.viewValue?_elementView x
  have hvalue : (Script.elementView x).member? "value" = some (Value.ofJson x.value) := rfl
  refine ⟨v, ?_, hs⟩
  rw [Value.viewValue?, h, ← hvalue]
  exact hv

/-- A copy whose value is left alone is an edit of an element just if it has the id of one of another value. -/
theorem edit?_eq_none (h : item.KeepsValue x) :
    e.edit? item = none ↔ (item.viewId? = some e.id → e.value.same x.value = true) := by
  obtain ⟨v, hv, hs⟩ := h.viewValue?
  have hsame : e.value.same v = true ↔ e.value.same x.value = true :=
    ⟨fun hev => Json.same_trans hev (Json.same_symm hs), fun hex => Json.same_trans hex hs⟩
  rw [Element.edit?, ← hsame]
  by_cases hid : item.viewId? = some e.id
  · simp [hid, hv]
  · simp [hid]

/-- **Honest copies** are edits of no element, and dishonest ones of some. -/
theorem honest_iff_edits (hcopies : ∀ c ∈ copies, c.2.KeepsValue c.1) :
    Honest es copies ↔ ∀ e ∈ es, e.edits (copies.map (·.2)) = [] := by
  have hedits (e : Element) : e.edits (copies.map (·.2)) = [] ↔
      ∀ c ∈ copies, c.2.viewId? = some e.id → e.value.same c.1.value = true := by
    rw [Element.edits, List.filterMap_eq_nil_iff, List.forall_mem_map]
    exact forall₂_congr fun c hc => edit?_eq_none (hcopies c hc)
  simp only [hedits, Honest]
  exact ⟨fun h e he c hc => h c hc e he, fun h c hc e he => h e he c hc⟩

/-- Copies with their own ids are honest, and so are copies that have no id of the form any more. -/
theorem honest_of_ids (hd : Distinct es) (hmem : ∀ c ∈ copies, c.1 ∈ es)
    (hids : ∀ c ∈ copies, c.2.viewId? = some c.1.id ∨ ∀ e ∈ es, c.2.viewId? ≠ some e.id) :
    Honest es copies := by
  intro c hc e he hid
  rcases hids c hc with hown | hnone
  · obtain rfl : c.1 = e := hd.eq_of_id (hmem c hc) he (Option.some.inj (hown.symm.trans hid))
    exact Json.same_refl _
  · exact absurd hid (hnone e he)

/-! ## What is read back of them -/

namespace Evaluation

/-- A write of an array is a write of an element of the form. -/
theorem getElem?_of_mem_editWrites {views items : List Value} {w : ValueWrite}
    (hw : w ∈ editWrites es views items) : ∃ e, es[w.place]? = some e := by
  obtain ⟨item, -, hwrite⟩ := List.mem_filterMap.1 hw
  simp only [Option.bind_eq_bind, Option.bind_eq_some_iff] at hwrite
  obtain ⟨id, -, value, -, place, hplace, hwrite⟩ := hwrite
  split at hwrite
  · cases hwrite
  · cases hwrite
    exact ⟨_, List.getElem?_eq_getElem (List.findIdx?_eq_some_iff_getElem.1 hplace).1⟩

/-- Nothing is written of an array just if it edits no element. -/
theorem editWrites_eq_nil (hd : Distinct es) {items : List Value} :
    editWrites es (Script.elementViews es) items = [] ↔ ∀ e ∈ es, e.edits items = [] := by
  constructor
  · intro hnone e he
    obtain ⟨place, hplace⟩ := List.mem_iff_getElem?.1 he
    rw [← valuesAt_editWrites hd hplace, hnone]
    rfl
  · intro hnone
    refine List.eq_nil_iff_forall_not_mem.2 fun w hw => ?_
    obtain ⟨e, he⟩ := getElem?_of_mem_editWrites hw
    have hwanted : w.value ∈ valuesAt w.place (editWrites es (Script.elementViews es) items) :=
      List.mem_filterMap.2 ⟨w, hw, if_pos rfl⟩
    rw [valuesAt_editWrites hd he, hnone e (List.mem_of_getElem? he)] at hwanted
    cases hwanted

/-- A copy of the element itself is no edit if its value is left alone, whatever id it has. -/
theorem ownWrites_keepsValue {view : Value} (h : view.KeepsValue e) (own : Nat) :
    ownWrites own e view = [] := by
  obtain ⟨v, hv, hs⟩ := h.viewValue?
  simp only [ownWrites, hv, if_pos hs]

end Evaluation

/-- An array asks for no change just if it edits no element. -/
theorem ActionRequest.changes_eq_nil_iff (hd : Distinct es) {items : List Value} :
    items.filterMap (changeOf? es) = [] ↔ ∀ e ∈ es, e.edits items = [] := by
  refine ⟨fun hnone e he => ?_, changes_eq_nil hd⟩
  have hlast := lastChange?_changes hd he items
  rw [hnone] at hlast
  exact List.getLast?_eq_none_iff.1 hlast.symm

/-- **Only values are written.** Let a script leave an array of copies of elements of a form, in any order and
any number of them, with their values left alone and anything else edited. If every copy has the id it had, or
one that is not an id of the form, or none, the copies are honest. And just if they are honest, a hook that
leaves them, has left the value in its copy of its own element alone, and returns nothing, makes no write, and
then the call changes nothing; and just so an action that leaves them asks for no change. -/
theorem only_values_written (s : Snapshot)
    (hcopies : ∀ c ∈ copies, c.1 ∈ s.elements ∧ c.2.KeepsValue c.1) :
    let es := s.elements
    ((∀ c ∈ copies, c.2.viewId? = some c.1.id ∨ ∀ e ∈ es, c.2.viewId? ≠ some e.id) →
      Honest es copies) ∧
    (∀ (own : Nat) (e : Element) (i : Invocation) (view : Value), es[own]? = some e →
      i.value? "elements" = some (.array (copies.map (·.2))) →
      i.value? "element" = some view → view.KeepsValue e → i.result = .unit →
        (Evaluation.collectWrites es (Script.elementViews es) own i = .ok [] ↔ Honest es copies) ∧
        (Honest es copies → ∀ (engine : Engine Program) (hook : Callable Program) (r : Reaction),
          r.elements = es → r.views = Script.elementViews es →
          engine.callHook hook r.views (Script.elementView e) = .ok (some i) →
            r.callAt engine own hook = r)) ∧
    ∀ (r : ActionRequest) (i : Invocation), r.elements = es →
      i.value? "elements" = some (.array (copies.map (·.2))) →
        (r.changes i = [] ↔ Honest es copies) := by
  intro es
  have hd : Distinct es := s.distinct
  have hhonest : Honest es copies ↔ ∀ e ∈ es, e.edits (copies.map (·.2)) = [] :=
    honest_iff_edits fun c hc => (hcopies c hc).2
  refine ⟨honest_of_ids hd fun c hc => (hcopies c hc).1, ?_, ?_⟩
  · intro own e i view he hitems hview hkeeps hunit
    have hresult : i.json? = .ok .null := by
      rw [Invocation.json?, hunit]
      rfl
    have hwrites : Evaluation.collectWrites es (Script.elementViews es) own i =
        .ok (Evaluation.editWrites es (Script.elementViews es) (copies.map (·.2))) := by
      rw [Evaluation.collectWrites_eq es _ he hresult, Invocation.items, hitems, hview, Option.map_some,
        Option.getD_some, Evaluation.ownWrites_keepsValue hkeeps, if_pos rfl, List.append_nil,
        List.append_nil]
    have hnone : Evaluation.collectWrites es (Script.elementViews es) own i = .ok [] ↔
        Honest es copies := by
      rw [hwrites, Except.ok.injEq, Evaluation.editWrites_eq_nil hd, hhonest]
    refine ⟨hnone, fun h engine hook r helements hviews hcall => ?_⟩
    have hshown : r.views[own]? = some (Script.elementView e) :=
      hviews ▸ Script.getElem?_elementViews he
    have hunwritten : Evaluation.collectWrites r.elements r.views own i = .ok [] := by
      rw [helements, hviews]
      exact hnone.2 h
    exact Reaction.callAt_of_writes (helements ▸ he) hshown hcall hunwritten
  · intro r i helements hitems
    rw [ActionRequest.changes, hitems, hhonest, helements]
    exact ActionRequest.changes_eq_nil_iff hd

end

/-! ## Two numbers of which one is renamed -/

section

open Script

/-- A number whose hook edits a copy. -/
def first : Element := { id := "a", type := .number, value := .int 1 }

def second : Element := { id := "b", type := .number, value := .int 2 }

/-- Both, with the copies of a script that has renamed the second one in its title. -/
def retitled : List (Element × Value) :=
  [(first, elementView first), (second, elementView { second with title := "b" })]

/-- Both, with the copies of a script that has given the first one the id of the second. -/
def renamed : List (Element × Value) :=
  [(first, elementView { first with id := "b" }), (second, elementView second)]

/-- What a hook of `first` leaves that returns nothing and has edited the array only. -/
def leaving (copies : List (Element × Value)) : Invocation :=
  ⟨.unit, [("element", elementView first), ("elements", .array (copies.map (·.2)))]⟩

theorem keepsValue_retitled :
    ∀ c ∈ retitled, c.1 ∈ [first, second] ∧ c.2.KeepsValue c.1 := by
  simp only [retitled, List.forall_mem_cons, List.not_mem_nil, false_implies, implies_true, and_true]
  exact ⟨⟨List.mem_cons_self, rfl⟩, List.mem_cons_of_mem _ List.mem_cons_self, rfl⟩

theorem keepsValue_renamed :
    ∀ c ∈ renamed, c.1 ∈ [first, second] ∧ c.2.KeepsValue c.1 := by
  simp only [renamed, List.forall_mem_cons, List.not_mem_nil, false_implies, implies_true, and_true]
  exact ⟨⟨List.mem_cons_self, rfl⟩, List.mem_cons_of_mem _ List.mem_cons_self, rfl⟩

theorem compile_retitling : Sandbox.compile {} HookKind.parameters "elements[1].title = \"b\"" =
    .ok (assigning [.assignItem 1 1 "title" (.text "b")]) := by
  cbv

theorem run_retitling : Sandbox.run {} (assigning [.assignItem 1 1 "title" (.text "b")])
    [.array (elementViews [first, second]), elementView first] = .ok (leaving retitled) := by
  cbv

/-- A hook that edits a title writes nothing, and an action that does asks for no change. -/
theorem only_values_written_retitled :
    let s : Snapshot := ⟨[first, second], ∅, by decide⟩
    let es := s.elements
    Sandbox.compile {} HookKind.parameters "elements[1].title = \"b\"" =
        .ok (assigning [.assignItem 1 1 "title" (.text "b")]) ∧
      Sandbox.run {} (assigning [.assignItem 1 1 "title" (.text "b")])
        [.array (elementViews es), elementView first] = .ok (leaving retitled) ∧
      (∀ c ∈ retitled, c.1 ∈ es ∧ c.2.KeepsValue c.1) ∧
      Evaluation.collectWrites es (elementViews es) 0 (leaving retitled) = .ok [] ∧
      ActionRequest.changes ⟨some "go", "", es, ∅⟩ (leaving retitled) = [] := by
  intro s es
  obtain ⟨hids, hhook, haction⟩ := @only_values_written Script.Program _ s keepsValue_retitled
  have hhonest : Honest es retitled := by
    refine hids ?_
    simp only [retitled, List.forall_mem_cons, List.not_mem_nil, false_implies, implies_true, and_true]
    exact ⟨.inl rfl, .inl rfl⟩
  obtain ⟨hnone, -⟩ := hhook 0 first (leaving retitled) (elementView first) rfl rfl rfl rfl rfl
  exact ⟨compile_retitling, run_retitling, keepsValue_retitled, hnone.2 hhonest,
    (haction _ _ rfl rfl).2 hhonest⟩

theorem compile_renaming : Sandbox.compile {} HookKind.parameters "elements[0].id = \"b\"" =
    .ok (assigning [.assignItem 1 0 "id" (.text "b")]) := by
  cbv

theorem run_renaming : Sandbox.run {} (assigning [.assignItem 1 0 "id" (.text "b")])
    [.array (elementViews [first, second]), elementView first] = .ok (leaving renamed) := by
  cbv

/-- **A copy that is renamed is written**, though no value has been edited: a hook that gives its copy of the
first element the id of the second writes the value of the first to the second, and an action that does asks
for this change. -/
theorem renamed_copy_written :
    let es := [first, second]
    Sandbox.compile {} HookKind.parameters "elements[0].id = \"b\"" =
        .ok (assigning [.assignItem 1 0 "id" (.text "b")]) ∧
      Sandbox.run {} (assigning [.assignItem 1 0 "id" (.text "b")])
        [.array (elementViews es), elementView first] = .ok (leaving renamed) ∧
      Distinct es ∧ (∀ c ∈ renamed, c.1 ∈ es ∧ c.2.KeepsValue c.1) ∧
      Evaluation.collectWrites es (elementViews es) 0 (leaving renamed) = .ok [⟨1, .int 1⟩] ∧
      ActionRequest.changes ⟨some "go", "", es, ∅⟩ (leaving renamed) = [⟨"b", .int 1⟩] :=
  ⟨compile_renaming, run_renaming, by decide, keepsValue_renamed, rfl, rfl⟩

end

end LiveForm

import LiveForm.Action.Run
import LiveForm.Proofs.Panel.Outcomes

/-!
# What an action writes back

The code of a button gets an array of views of all elements and may do to it what it likes. When it has come
to its end, the array is read once more, item by item. An item is an edit of an element if it has its id, a
value with a JSON form, and this value differs from the one the element has had all along (`Element.edits`).
Everything else is passed over: items without an element, copies that were left alone, whatever is no view.
Of several edits of an element the last counts, wherever the items stand (`lastChange?_changes`).

What an outcome then does to a panel is known from the changes alone, so that the way from the array to the
published values is one step (`action_writes_back`).
-/

namespace LiveForm

open Script (Value)

variable {Program : Type}

/-- An element given the last of these values, and left as it is if there is none. -/
def Element.edited (items : List Value) (e : Element) : Element :=
  ((e.edits items).getLast?.map (Snapshot.withValueOf e)).getD e

/-- An item with the id of one of the elements. -/
def Snapshot.names (s : Snapshot) (item : Value) : Bool := item.viewId?.any s.contains

/-! ## Edits among changes -/

namespace ActionRequest

variable {elements : List Element} {item : Value} {items : List Value}

/-- An item with the id of an element is a change just if it is an edit of this element. -/
theorem changeOf?_of_viewId (hd : Distinct elements) {e : Element} (he : e ∈ elements)
    (hid : item.viewId? = some e.id) :
    changeOf? elements item = (e.edit? item).map fun v => ⟨e.id, v⟩ := by
  have hfind : elements.find? (·.id == e.id) = some e := hd.find? he
  rw [changeOf?, hid, Element.edit?, if_pos hid]
  cases item.viewValue? with
  | none => rfl
  | some v =>
    simp only [Option.bind_eq_bind, Option.bind_some, hfind, Option.filter_some]
    cases e.value.same v <;> rfl

/-- A change has the id of its item, and there is an element of that id. -/
theorem changeOf?_eq_some {c : ValueAssignment} (h : changeOf? elements item = some c) :
    item.viewId? = some c.id ∧ ∃ e ∈ elements, e.id = c.id := by
  simp only [changeOf?, Option.bind_eq_bind, Option.bind_eq_some_iff] at h
  obtain ⟨id, hid, value, -, e, hfind, hchange⟩ := h
  split at hchange
  · cases hchange
  · cases hchange
    have he := List.find?_some hfind
    exact ⟨hid, e, List.mem_of_find?_eq_some hfind, eq_of_beq he⟩

/-- The last change that one item asks for. -/
theorem lastChange?_changeOf? (hd : Distinct elements) {e : Element} (he : e ∈ elements) (item : Value) :
    lastChange? (changeOf? elements item).toList e.id = e.edit? item := by
  by_cases hid : item.viewId? = some e.id
  · rw [changeOf?_of_viewId hd he hid]
    cases e.edit? item with
    | none => rfl
    | some v => simp [lastChange?]
  · rw [Element.edit?, if_neg hid]
    refine lastChange?_eq_none.2 fun c hc hcid => hid ?_
    rw [(changeOf?_eq_some (Option.mem_toList.1 hc)).1, hcid]

/-- The last change of the id of an element is the last of its edits. -/
theorem lastChange?_changes (hd : Distinct elements) {e : Element} (he : e ∈ elements)
    (items : List Value) :
    lastChange? (items.filterMap (changeOf? elements)) e.id = (e.edits items).getLast? := by
  -- the last item decides, and the items before it only if it is no edit
  induction items using List.reverseRecOn with
  | nil => rfl
  | append_singleton items item ih =>
    have hchanges : [item].filterMap (changeOf? elements) = (changeOf? elements item).toList := by
      rw [List.filterMap_cons]
      cases changeOf? elements item <;> rfl
    have hedits : ([item].filterMap e.edit?).getLast? = e.edit? item := by
      rw [List.filterMap_cons]
      cases e.edit? item <;> rfl
    rw [Element.edits, List.filterMap_append, lastChange?_append, ih, hchanges,
      lastChange?_changeOf? hd he, List.filterMap_append, List.getLast?_append, hedits, Element.edits]

/-- The changes that an array asks for do to an element what its edits do. -/
theorem assigned_changes (hd : Distinct elements) {e : Element} (he : e ∈ elements)
    (items : List Value) : e.assigned (items.filterMap (changeOf? elements)) = e.edited items := by
  rw [Element.assigned, lastChange?_changes hd he, Element.edited]

/-- Items that name no element are passed over. -/
theorem changes_names {s : Snapshot} (items : List Value) :
    (items.filter s.names).filterMap (changeOf? s.elements) =
      items.filterMap (changeOf? s.elements) := by
  rw [List.filterMap_filter]
  refine List.filterMap_congr fun item _ => ?_
  split
  case isTrue => rfl
  case isFalse hnames =>
    symm
    refine Option.eq_none_iff_forall_ne_some.2 fun c hc => hnames ?_
    obtain ⟨hid, e, he, heid⟩ := changeOf?_eq_some hc
    rw [Snapshot.names, hid, Option.any_some, ← heid]
    exact Snapshot.contains_iff_mem_ids.2 (List.mem_map_of_mem he)

/-- Without an edit of an element there is no change. -/
theorem changes_eq_nil (hd : Distinct elements) (h : ∀ e ∈ elements, e.edits items = []) :
    items.filterMap (changeOf? elements) = [] := by
  refine List.eq_nil_iff_forall_not_mem.2 fun c hc => ?_
  obtain ⟨item, -, hchange⟩ := List.mem_filterMap.1 hc
  obtain ⟨-, e, he, hid⟩ := changeOf?_eq_some hchange
  have hlast := lastChange?_changes hd he items
  rw [h e he] at hlast
  exact lastChange?_eq_none.1 hlast c hc hid.symm

/-! ## Runs -/

/-- A run ends with an array of elements among its variables. -/
def Leaves {Code : Type} (runner : ActionEngine Code) (x : Exchange) (r : ActionRequest)
    (items : List Value) : Prop :=
  ∃ program i x', runner.compile actionParameters r.code = .ok program ∧
    runner.runIn x program r.arguments = (.ok i, x') ∧ i.value? "elements" = some (.array items)

/-- The changes of an action that completes are those its array asks for. -/
theorem Leaves.changes {Code : Type} {runner : ActionEngine Code} {x : Exchange} {r : ActionRequest}
    {o : ActionOutcome} (h : r.Leaves runner x items) (hrun : (r.runBy runner x).1 = .ok o) :
    o.changes = items.filterMap (changeOf? r.elements) := by
  obtain ⟨program, i, x', hcompile, hi, hvalue⟩ := h
  simp only [runBy, hcompile, hi, outcome] at hrun
  split at hrun
  case h_1 value _ =>
    obtain rfl := Except.ok.inj hrun
    show r.changes i = _
    rw [ActionRequest.changes, hvalue]
  case h_2 => cases hrun

end ActionRequest

namespace Panel

variable {p : Panel Program}

/-- A request shows the elements as they are published. -/
theorem actionRequest_elements {button : String} {r : ActionRequest}
    (h : p.actionRequest button = .ok r) : r.elements = p.published.elements := by
  rw [actionRequest] at h
  split at h
  · cases h
  · split at h
    · obtain rfl := Except.ok.inj h
      rfl
    · cases h

/-- Changes that are none leave a panel as it is. -/
theorem applyOutcome_nil (p : Panel Program) : p.applyOutcome [] = { panel := p } := rfl

/-- **Actions write back their edits.** Let no hook of a form react to values, and let the action of a button
complete, after any session and under any engine, with an array of elements among its variables. Applying its
outcome gives every element the last value that an item of its id has, moved into range, where only values count
that have a JSON form and differ from that of the element; without such an item the value stays what it was.
Nothing but what is derived changes besides, and no initial value. Items that name no element play no part, and if
no element is edited, the panel is left as it was and there is nothing to tell. -/
theorem action_writes_back (engine : Engine Program) (limit : Nat) (title : Option String) (s : Snapshot)
    (ops : List Operation) {Code : Type} (runner : ActionEngine Code) :
    let p := (ofSnapshot engine limit title s).panel.after ops
    Silent p.published.elements →
    ∀ (button : String) (r : ActionRequest) (x : Exchange) (o : ActionOutcome) (items : List Value),
      p.actionRequest button = .ok r → (r.runBy runner x).1 = .ok o → r.Leaves runner x items →
        let u := p.applyOutcome o.changes
        u.panel.published.elements.map Element.withoutDerived =
            (p.published.elements.map (Element.edited items)).map Element.withoutDerived ∧
          u.panel.published.initial = p.published.initial ∧
          o.changes = (items.filter p.published.names).filterMap
            (ActionRequest.changeOf? p.published.elements) ∧
          ((∀ e ∈ p.published.elements, e.edits items = []) → u = { panel := p }) := by
  intro p hsilent button r x o items hrequest hrun hleaves u
  have hp : p.Valid := after_valid (ofSnapshot_valid engine limit title s) ops
  have hchanges : o.changes = items.filterMap (ActionRequest.changeOf? p.published.elements) := by
    rw [hleaves.changes hrun, actionRequest_elements hrequest]
  refine ⟨?_, ?_, ?_, ?_⟩
  · have happlied := applyOutcome_withoutDerived hp hsilent o.changes
    rw [hchanges] at happlied
    rw [List.map_congr_left fun e he =>
      (ActionRequest.assigned_changes p.published.distinct he items).symm, ← happlied, ← hchanges]
  · have hkeeps : (p.after [.applyOutcome o.changes]).Keeps p.published.elements p.published.initial :=
      Keeps.after_outcomes hp ⟨rfl, rfl⟩ [o.changes]
    rw [after_applyOutcome] at hkeeps
    exact hkeeps.initial
  · rw [hchanges, ActionRequest.changes_names]
  · intro hnone
    show p.applyOutcome o.changes = _
    rw [hchanges, ActionRequest.changes_eq_nil p.published.distinct hnone, applyOutcome_nil]

/-! ## A button that moves a slider -/

open Script

/-- A button that sets the first element of the form. -/
def setter : Element := { id := "b", type := .button, action := some "elements[0].value = 99" }

/-- The script of `setter`. -/
def setterProgram : Script.Program where
  parameters := actionParameters
  body := [.assign
    (.chain (.variable "elements" false ⟨1, 1⟩)
      [.index (.literal (.int 0) ⟨1, 10⟩) false ⟨1, 9⟩, .property "value" false ⟨1, 12⟩ ⟨1, 13⟩])
    none (.literal (.int 99) ⟨1, 21⟩) ⟨1, 19⟩]
  functions := []

/-- The request of the button where the first element is `slider`. -/
def setterRequest : ActionRequest :=
  ⟨some "b", "elements[0].value = 99", [slider, setter], .ofList [("s", slider.value)]⟩

/-- What its run leaves of the array. -/
def setterItems : List Value := elementViews [{ slider with value := .int 99 }, setter]

/-- What its run leaves of all variables. -/
def setterInvocation : Invocation :=
  ⟨.unit, [("initial", Value.ofJson (.obj [("s", slider.value)])), ("elements", .array setterItems),
    ("code", .text setterRequest.code)]⟩

theorem compile_setter :
    (Sandbox.actionEngine {}).compile actionParameters setterRequest.code = .ok setterProgram := by
  rw [Sandbox.actionEngine_compile]
  cbv

theorem run_setter : (Sandbox.actionEngine {}).runIn {} setterProgram setterRequest.arguments =
    (.ok setterInvocation, {}) := by
  rw [Sandbox.actionEngine_runIn]
  cbv

theorem setterRequest_leaves : setterRequest.Leaves (Sandbox.actionEngine {}) {} setterItems :=
  ⟨setterProgram, setterInvocation, {}, compile_setter, run_setter, rfl⟩

theorem setterRequest_run :
    (setterRequest.run {} {}).1 = .ok ⟨some "b", .null, [⟨"s", .int 99⟩], []⟩ := by
  have hchanges : setterRequest.changes setterInvocation = [⟨"s", .int 99⟩] := by
    decide +kernel
  have houtcome : setterRequest.outcome setterInvocation {} = .ok ⟨some "b", .null, [⟨"s", .int 99⟩], []⟩ := by
    rw [← hchanges]
    rfl
  rw [ActionRequest.run, ActionRequest.runBy, compile_setter]
  simp only [run_setter]
  exact houtcome

/-- What the button asks for is beyond the slider. -/
theorem action_writes_back_slider :
    let s : Snapshot := ⟨[slider, setter], .ofList [("s", slider.value)], by decide⟩
    let p := (ofSnapshot (Sandbox.engine {}) 8 none s).panel
    Silent p.published.elements ∧
      ∃ o : ActionOutcome, p.actionRequest "b" = .ok setterRequest ∧
        (setterRequest.run {} {}).1 = .ok o ∧
        setterRequest.Leaves (Sandbox.actionEngine {}) {} setterItems ∧
        (p.applyOutcome o.changes).panel.published.elements.map (·.value) = [.int 10, .null] := by
  intro s p
  have hsettled : Evaluation.settled (Sandbox.engine {}) 8 s = s := Evaluation.settled_eq_self rfl
  have hpublished : p.published = s := (ofSnapshot_published _ _ _ _).trans hsettled
  have hsilent : Silent p.published.elements := by
    rw [hpublished]
    decide
  have hrequest : p.actionRequest "b" = .ok setterRequest := by
    rw [actionRequest, hpublished]
    rfl
  refine ⟨hsilent, _, hrequest, setterRequest_run, setterRequest_leaves, ?_⟩
  have hback : (p.applyOutcome [⟨"s", .int 99⟩]).panel.published.elements.map Element.withoutDerived =
      (p.published.elements.map (Element.edited setterItems)).map Element.withoutDerived :=
    (action_writes_back (Sandbox.engine {}) 8 none s [] (Sandbox.actionEngine {}) hsilent "b" setterRequest {} _
      setterItems hrequest setterRequest_run setterRequest_leaves).1
  clear_value p
  have hread := congrArg (List.map (·.value)) hback
  rw [List.map_map, hpublished] at hread
  exact hread.trans (by decide +kernel)

end Panel

end LiveForm

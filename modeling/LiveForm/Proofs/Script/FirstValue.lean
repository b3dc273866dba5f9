import LiveForm.Proofs.Script.Literal

/-!
# A script that reads a value

A script may look at any element that it is given the view of. One that reads the value of the first element, and
nothing else of it, answers this value in every form (`run_firstValue`), and so it is flag-blind
(`flagBlind_firstValue`): forms with the same faces have the same first value, or no element at all.

With it a form is made whose values take some passes to settle and whose flags hang on them (`countdown`).
-/

namespace LiveForm.Script

/-- No JSON value is in a cell. -/
theorem Value.ofJson_ne_shared (v : Json) (cell : Nat) : Value.ofJson v ≠ .shared cell := by
  intro h
  cases v with
  | num n =>
    cases n with
    | int i hi =>
      rw [Value.ofJson] at h
      split at h <;> cases h
    | real x hx => cases h
  | _ => cases h

/-- The script that reads the value of the first element. -/
def firstValue : Program where
  parameters := HookKind.parameters
  body := [.expr (.chain (.variable "elements" false ⟨1, 1⟩)
    [.index (.literal (.int 0) ⟨1, 10⟩) false ⟨1, 9⟩, .property "value" false ⟨1, 12⟩ ⟨1, 13⟩])]
  functions := []

theorem compile_firstValue : Sandbox.compile {} HookKind.parameters "elements[0].value" = .ok firstValue := by
  cbv

/-- The script only looks at one member of the first view, whatever the others are. -/
theorem run_firstView {v : Value} (hv : ∀ cell, v ≠ .shared cell) (disabled id options title type visible : Value)
    (views : List Value) (own : List (String × Value)) :
    let first : Value := .map [("disabled", disabled), ("id", id), ("options", options), ("title", title),
      ("type", type), ("value", v), ("visible", visible)]
    Sandbox.run {} firstValue [.array (first :: views), .map own] =
      .ok ⟨v, [("element", .map own), ("elements", .array (first :: views))]⟩ := by
  cases v with
  | shared cell => exact absurd rfl (hv cell)
  | _ => cbv

/-- **The value of the first element** is answered in every form that has one. -/
theorem run_firstValue (first : Element) (rest : List Element) (own : Element) :
    Sandbox.run {} firstValue [.array (elementViews (first :: rest)), elementView own] =
      .ok ⟨.ofJson first.value,
        [("element", elementView own), ("elements", .array (elementViews (first :: rest)))]⟩ :=
  run_firstView (Value.ofJson_ne_shared first.value) _ _ _ _ _ _ _ _

theorem flagBlind_firstValue : (Sandbox.engine {}).FlagBlind (.script firstValue) := by
  intro es es' place e e' hface he he'
  cases es with
  | nil => cases he
  | cons first rest =>
    cases es' with
    | nil => cases he'
    | cons first' rest' =>
      have hvalue : first.value = first'.value := congrArg (·.2.2.2) (List.cons.inj hface).1
      simp only [Engine.ask_script, Sandbox.engine_run, run_firstValue, hvalue]
      rfl

/-! ## A form that settles in steps -/

/-- A slider that its own hook moves down by one, as far as it goes. -/
def falling (value : Json) : Element :=
  { id := "a", type := .slider, value, min := some 0.0, hooks := { onValueChanged := some "element.value - 1" } }

/-- A text that is shown while the slider is not at zero. -/
def lit : Element := { id := "b", type := .text, hooks := { showIf := some "elements[0].value" } }

/-- The form of the two. From a value above zero it takes a pass for each step, and one more. -/
def countdown (value : Json) : Snapshot where
  elements := [falling value, lit]
  initial := Snapshot.valuesOf [falling value, lit]
  distinct := (by decide : ["a", "b"].Nodup)

/-- The script of the slider. -/
def oneLess : Program where
  parameters := HookKind.parameters
  body := [.expr (.binary .minus
    (.chain (.variable "element" false ⟨1, 1⟩) [.property "value" false ⟨1, 8⟩ ⟨1, 9⟩])
    (.literal (.int 1) ⟨1, 17⟩) ⟨1, 15⟩)]
  functions := []

theorem compile_oneLess : Sandbox.compile {} HookKind.parameters "element.value - 1" = .ok oneLess := by
  cbv

/-- The hooks of the form. -/
def countdownHooks : List (ResolvedHooks Program) :=
  [{ onValueChanged := some (.script oneLess) }, { showIf := some (.script firstValue) }]

/-- They are the same in every state of it. -/
theorem hooksOf_countdown {value : Json} {es : List Element}
    (h : es.map Element.frame = (countdown value).elements.map Element.frame) :
    es.map (Sandbox.engine {}).hooksOf = countdownHooks := by
  rw [Engine.map_hooksOf_eq _ h, countdownHooks, ← Sandbox.compiled_of_compile compile_oneLess,
    ← Sandbox.compiled_of_compile compile_firstValue]
  rfl

theorem asksFlagBlind_countdown (value : Json) {es : List Element}
    (h : es.map Element.frame = (countdown value).elements.map Element.frame) :
    ∀ e ∈ es, (Sandbox.engine {}).AsksFlagBlind e := by
  have hblind : ∀ e ∈ (countdown value).elements, (Sandbox.engine {}).AsksFlagBlind e := by
    intro e he kind hook hkind hhook
    rcases List.mem_pair.1 he with rfl | rfl
    · -- the slider is not asked for flags
      cases kind with
      | onValueChanged => exact absurd rfl hkind
      | _ => cases hhook
    · cases kind with
      | showIf =>
        have hsource : lit.hooks.source? .showIf = some "elements[0].value" := rfl
        rw [Sandbox.hookOf?_of_compile hsource compile_firstValue] at hhook
        obtain rfl := Option.some.inj hhook
        exact flagBlind_firstValue
      | _ => cases hhook
  intro e he
  obtain ⟨e', he', hframe⟩ := mem_of_frame h he
  exact (hblind e' he').of_frame hframe

end LiveForm.Script

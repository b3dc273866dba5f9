import LiveForm.Form.Options
import LiveForm.Proofs.Script.Literal
import LiveForm.Proofs.Script.Views

/-!
# Options that are read and shown

Items of a list of options may be written in many ways, but whatever is read is shown to scripts in one, and this is
read as the same options (`ofItem?_toJson`). So nothing is lost between a form and a script beyond what scripts
cannot see of values: a hook that answers with the options it was shown keeps them, up to integers above the signed
range (`listOfJson_laws`).
-/

namespace LiveForm

variable {Program : Type}

/-! ## Lists of items -/

def Json.isArray (v : Json) : Bool := v.asItems?.isSome

namespace SelectOption

/-- Arrays are refused, and nothing else. -/
theorem ofItem?_eq_none {item : Json} : ofItem? item = none ↔ item.isArray = true := by
  cases item <;> simp [ofItem?, Json.isArray, Json.asItems?]

theorem ofItems_cons_of_refused {item : Json} (h : item.isArray = true) (index : Nat) (items : List Json) :
    ofItems index (item :: items) = .error (.nestedArray index) := by
  rw [ofItems, ofItem?_eq_none.2 h]

theorem ofItems_cons_of_read {item : Json} {o : SelectOption} (h : ofItem? item = some o) (index : Nat)
    (items : List Json) : ofItems index (item :: items) = (ofItems (index + 1) items).map (o :: ·) := by
  rw [ofItems, h]

/-- **A list that is read** has one option for each item, at the place of the item. -/
theorem ofItems_eq_ok {index : Nat} {items : List Json} {os : List SelectOption} :
    ofItems index items = .ok os ↔ items.map ofItem? = os.map some := by
  induction items generalizing index os with
  | nil => cases os <;> simp [ofItems]
  | cons item items ih =>
    cases hitem : ofItem? item with
    | none =>
      rw [ofItems_cons_of_refused (ofItem?_eq_none.1 hitem)]
      cases os <;> simp [hitem]
    | some o =>
      rw [ofItems_cons_of_read hitem, List.map_cons, hitem]
      cases os with
      | nil => cases ofItems (index + 1) items <;> simp [Except.map]
      | cons o' os =>
        rw [List.map_cons, List.cons.injEq, Option.some.injEq, ← @ih (index + 1)]
        cases ofItems (index + 1) items <;> simp [Except.map]

/-- **A list that is refused** has an array among its items, and the first one is reported. -/
theorem ofItems_eq_error {index : Nat} {items : List Json} {error : OptionsError} :
    ofItems index items = .error error ↔
      ∃ n, items.findIdx? Json.isArray = some n ∧ error = .nestedArray (index + n) := by
  induction items generalizing index with
  | nil => simp [ofItems]
  | cons item items ih =>
    rw [List.findIdx?_cons]
    cases hitem : ofItem? item with
    | none =>
      -- this is the first one
      have harray := ofItem?_eq_none.1 hitem
      rw [ofItems_cons_of_refused harray, harray]
      simp [eq_comm]
    | some o =>
      have harray : item.isArray = false := by
        rw [← Bool.not_eq_true, ← ofItem?_eq_none, hitem]
        exact nofun
      have hrest : ((ofItems (index + 1) items).map (o :: ·) = .error error) ↔
          ofItems (index + 1) items = .error error := by
        cases ofItems (index + 1) items <;> simp [Except.map]
      rw [ofItems_cons_of_read hitem, harray, hrest, ih]
      simp [Nat.add_assoc, Nat.add_comm 1]

theorem listOfJson_eq_error {items : List Json} {error : OptionsError} :
    listOfJson (.arr items) = .error error ↔
      ∃ n, items.findIdx? Json.isArray = some n ∧ error = .nestedArray n := by
  rw [listOfJson, ofItems_eq_error]
  simp only [Nat.zero_add]

/-- Just arrays without arrays among their items are read. -/
theorem listOfJson_isOk_iff (v : Json) :
    (∃ os, listOfJson v = .ok os) ↔ ∃ items, v = .arr items ∧ ∀ item ∈ items, item.isArray = false := by
  constructor
  · rintro ⟨os, hos⟩
    cases v with
    | arr items =>
      refine ⟨items, rfl, List.findIdx?_eq_none_iff.1 (Option.eq_none_iff_forall_ne_some.2 fun n hn => ?_)⟩
      exact nomatch hos.symm.trans (listOfJson_eq_error.2 ⟨n, hn, rfl⟩)
    | null | bool _ | num _ | str _ | obj _ => cases hos
  · rintro ⟨items, rfl, hitems⟩
    cases h : listOfJson (.arr items) with
    | ok os => exact ⟨os, rfl⟩
    | error error =>
      obtain ⟨n, hn, -⟩ := listOfJson_eq_error.1 h
      rw [List.findIdx?_eq_none_iff.2 hitems] at hn
      cases hn

/-- What is said of an array that is refused. -/
theorem listOfJson_message_iff {items : List Json} {message : String} :
    (listOfJson (.arr items)).mapError OptionsError.message = .error message ↔
      ∃ n, items.findIdx? Json.isArray = some n ∧ message = "option " ++ toString n ++ " is an array" := by
  constructor
  · intro h
    cases hlist : listOfJson (.arr items) with
    | ok os =>
      rw [hlist] at h
      cases h
    | error error =>
      obtain ⟨n, hn, rfl⟩ := listOfJson_eq_error.1 hlist
      rw [hlist] at h
      exact ⟨n, hn, (Except.error.inj h).symm⟩
  · rintro ⟨n, hn, rfl⟩
    rw [listOfJson_eq_error.2 ⟨n, hn, rfl⟩]
    rfl

/-! ## What scripts are shown -/

theorem toJson_eq (o : SelectOption) : o.toJson = .obj [("label", .str o.label), ("value", o.value)] := rfl

/-- **The form that options are shown in** is read as the option. -/
theorem ofItem?_toJson (o : SelectOption) : ofItem? o.toJson = some o := rfl

theorem listOfJson_toJson (os : List SelectOption) : listOfJson (.arr (os.map toJson)) = .ok os := by
  rw [listOfJson, ofItems_eq_ok, List.map_map]
  exact List.map_congr_left fun o _ => ofItem?_toJson o

/-- An option as a script sees it. -/
def seen (o : SelectOption) : SelectOption := ⟨o.label, o.value.seen⟩

theorem seen_toJson (o : SelectOption) : o.toJson.seen = o.seen.toJson := by
  rw [toJson_eq, Json.seen, Json.mapNumbers_obj]
  rfl

/-- Options are seen as they are just if the integers in their values are in the signed range. -/
theorem map_seen_eq_self {os : List SelectOption} :
    os.map seen = os ↔ ∀ o ∈ os, o.value.Each Number.Signed := by
  rw [Json.map_eq_self]
  refine forall₂_congr fun o _ => ?_
  cases o with
  | mk label value => rw [← Json.seen_eq_self, seen, mk.injEq, eq_self, true_and]

end SelectOption

/-- The options in the view of an element come back as they are seen. -/
theorem Script.toJson?_options {e : Element} {v : Script.Value} (h : (elementView e).member? "options" = some v) :
    v.toJson? = .ok (.arr ((e.effectiveOptions.map SelectOption.seen).map SelectOption.toJson)) := by
  have hoptions : (elementView e).member? "options" =
      some (Value.ofJson (.arr (e.effectiveOptions.map SelectOption.toJson))) := rfl
  obtain rfl := Option.some.inj (hoptions.symm.trans h)
  rw [Value.toJson?_ofJson, Json.seen, Json.mapNumbers_arr, List.map_map, List.map_map]
  exact congrArg _ (congrArg _ (List.map_congr_left fun o _ => SelectOption.seen_toJson o))

/-! ## Hooks that answer with the options they are shown -/

namespace Evaluation

/-- A hook that answers with the options it is shown is read without a fault. -/
theorem askOptions_own {engine : Engine Program} {views : List Script.Value} {e : Element} {hook : Callable Program}
    {i : Invocation} (hcall : engine.callHook hook views (Script.elementView e) = .ok (some i))
    (hoptions : (Script.elementView e).member? "options" = some i.result) (id : String) :
    askOptions engine views (Script.elementView e) id (some hook) =
      (some (e.effectiveOptions.map SelectOption.seen), []) := by
  have hresult : i.json? =
      .ok (.arr ((e.effectiveOptions.map SelectOption.seen).map SelectOption.toJson)) := by
    rw [Invocation.json?, Script.Value.asResult?, Script.toJson?_options hoptions]
    rfl
  simp only [askOptions, Engine.ask, hcall, hresult, optionsOf, SelectOption.listOfJson_toJson]
  rfl

/-- The element that such a hook belongs to ends with the options it had, as scripts see them. -/
theorem effectiveOptions_derive_own {engine : Engine Program} {es : List Element} {own : Nat} {e : Element}
    {hook : Callable Program} {i : Invocation} (he : es[own]? = some e) (hoffers : e.capabilities.options = true)
    (hhook : engine.hookOf? e .getOptions = some hook)
    (hcall : engine.callHook hook (Script.elementViews es) (Script.elementView e) = .ok (some i))
    (hoptions : (Script.elementView e).member? "options" = some i.result) :
    ∃ e', (derive engine (es.map engine.hooksOf) es).1[own]? = some e' ∧
      e'.effectiveOptions = e.effectiveOptions.map SelectOption.seen := by
  have hderived : (derivedIn engine es e).options = some (e.effectiveOptions.map SelectOption.seen) := by
    simp only [derivedIn, deriveOne, Engine.hooksOf, hhook, hoffers, if_true, askOptions_own hcall hoptions]
  refine ⟨withDerived e (derivedIn engine es e), ?_, ?_⟩
  · rw [derive_eq_map, List.getElem?_map, he, Option.map_some]
  · rw [Element.effectiveOptions, withDerived, hderived, Option.getD_some]

end Evaluation

/-- **Lists of options.** A value is read as a list of options just if it is an array without an array among its
items. It is read as one option for each item, in the order of the items. Another array is refused with a message
that has the place of the first array in it.

The form that options are shown in to scripts is read as the very options, so that a list that was read and shown is
read again as it was. A hook for options that answers with the options of its own element is read without a fault,
and the element offers what it offered, as scripts see it: that is exactly what it offered, just if all integers in
the values are in the signed range. -/
theorem SelectOption.listOfJson_laws :
    (∀ v : Json, (∃ os, listOfJson v = .ok os) ↔ ∃ items, v = .arr items ∧ ∀ item ∈ items, item.isArray = false) ∧
    (∀ items os, listOfJson (.arr items) = .ok os ↔ items.map ofItem? = os.map some) ∧
    (∀ items message, (listOfJson (.arr items)).mapError OptionsError.message = .error message ↔
      ∃ n, items.findIdx? Json.isArray = some n ∧ message = "option " ++ toString n ++ " is an array") ∧
    (∀ os, listOfJson (.arr (os.map toJson)) = .ok os) ∧
    (∀ v, ((listOfJson v).bind fun os => listOfJson (.arr (os.map toJson))) = listOfJson v) ∧
    ∀ (engine : Engine Program) (es : List Element) (own : Nat) (e : Element) (hook : Callable Program)
      (i : Invocation), es[own]? = some e → e.capabilities.options = true →
      engine.hookOf? e .getOptions = some hook →
      engine.callHook hook (Script.elementViews es) (Script.elementView e) = .ok (some i) →
      (Script.elementView e).member? "options" = some i.result →
        (Evaluation.askOptions engine (Script.elementViews es) (Script.elementView e) e.id (some hook)).2 = [] ∧
        ∃ e', (Evaluation.derive engine (es.map engine.hooksOf) es).1[own]? = some e' ∧
          e'.effectiveOptions = e.effectiveOptions.map seen ∧
          (e'.effectiveOptions = e.effectiveOptions ↔
            ∀ o ∈ e.effectiveOptions, o.value.Each Number.Signed) := by
  refine ⟨listOfJson_isOk_iff, fun _ _ => ofItems_eq_ok, fun _ _ => listOfJson_message_iff, listOfJson_toJson,
    fun v => ?_, ?_⟩
  · cases h : listOfJson v with
    | error error => rfl
    | ok os => exact listOfJson_toJson os
  · intro engine es own e hook i he hoffers hhook hcall hoptions
    obtain ⟨e', he', hyields⟩ := Evaluation.effectiveOptions_derive_own he hoffers hhook hcall hoptions
    refine ⟨by rw [Evaluation.askOptions_own hcall hoptions], e', he', hyields, ?_⟩
    rw [hyields, map_seen_eq_self]

/-! ## An element that offers what it offers -/

section

open Script

/-- An element whose hook answers with its own options. -/
def offering (options : List SelectOption) : Element :=
  { id := "s", type := .select, options, hooks := { getOptions := some "element.options" } }

/-- The script of `offering`. -/
def offeringProgram : Script.Program where
  parameters := HookKind.parameters
  body := [.expr (.chain (.variable "element" false ⟨1, 1⟩) [.property "options" false ⟨1, 8⟩ ⟨1, 9⟩])]
  functions := []

theorem compile_offering :
    Sandbox.compile {} HookKind.parameters "element.options" = .ok offeringProgram := by
  cbv

theorem hookOf_offering (options : List SelectOption) :
    (Sandbox.engine {}).hookOf? (offering options) .getOptions = some (.script offeringProgram) :=
  Sandbox.hookOf?_of_compile rfl compile_offering

/-- What the hook leaves: its answer is the member of the view. -/
def offeringRun (options : List SelectOption) : Invocation :=
  ⟨Value.ofJson (.arr (options.map SelectOption.toJson)),
    [("element", elementView (offering options)), ("elements", .array (elementViews [offering options]))]⟩

theorem call_offering (options : List SelectOption) :
    (Sandbox.engine {}).callHook (.script offeringProgram) (elementViews [offering options])
      (elementView (offering options)) = .ok (some (offeringRun options)) :=
  rfl

/-- Options with and without a value. -/
def twoOptions : List SelectOption := [⟨"one", .str "1"⟩, ⟨"none", .null⟩]

/-- They are what an element offers that answers with them. -/
theorem SelectOption.listOfJson_laws_offering :
    let engine := Sandbox.engine {}
    let e := offering twoOptions
    (elementView e).member? "options" = some (offeringRun twoOptions).result ∧
      (Evaluation.askOptions engine (elementViews [e]) (elementView e) "s" (some (.script offeringProgram))).2 = [] ∧
      ∃ e', (Evaluation.derive engine [engine.hooksOf e] [e]).1[0]? = some e' ∧ e'.effectiveOptions = twoOptions := by
  intro engine e
  have hyields := (@SelectOption.listOfJson_laws Script.Program).2.2.2.2.2
  obtain ⟨hquiet, e', he', -, hexact⟩ := hyields engine [e] 0 e (.script offeringProgram) (offeringRun twoOptions)
    rfl rfl (hookOf_offering _) (call_offering _) rfl
  refine ⟨rfl, hquiet, e', he', hexact.2 ?_⟩
  have hvalues : e.effectiveOptions = twoOptions := rfl
  rw [hvalues, twoOptions]
  simp only [List.forall_mem_cons, List.not_mem_nil, false_implies, implies_true, and_true]
  exact ⟨.str "1", .null⟩

/-- An option whose value is above the signed range is replaced by one with the nearest float. -/
theorem offering_not_kept :
    let engine := Sandbox.engine {}
    let options : List SelectOption := [⟨"greatest", .greatest⟩]
    let e := offering options
    (elementView e).member? "options" = some (offeringRun options).result ∧
      engine.callHook (.script offeringProgram) (elementViews [e]) (elementView e) =
        .ok (some (offeringRun options)) ∧
      e.effectiveOptions = options ∧
      ∃ e', (Evaluation.derive engine [engine.hooksOf e] [e]).1[0]? = some e' ∧
        e'.effectiveOptions = [⟨"greatest", .ofFloat 18446744073709551616⟩] ∧ e'.effectiveOptions ≠ options := by
  intro engine options e
  have he : [e][0]? = some e := rfl
  obtain ⟨e', he', hyields⟩ := Evaluation.effectiveOptions_derive_own he rfl (hookOf_offering _)
    (call_offering options) rfl
  have hseen : e'.effectiveOptions = [⟨"greatest", Json.greatest.seen⟩] := hyields
  obtain ⟨hfloat, hother⟩ := Json.seen_greatest
  refine ⟨rfl, call_offering _, rfl, e', he', ?_, fun hkept => hother ?_⟩
  · rw [hseen, hfloat]
  · exact congrArg SelectOption.value (List.cons.inj (hseen.symm.trans hkept)).1

end

end LiveForm

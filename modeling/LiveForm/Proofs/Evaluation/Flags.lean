import LiveForm.Proofs.Evaluation.Derive

/-!
# Answers that do not look at flags

A hook is **flag-blind** if its answers hang on ids, types, titles and values alone and not on the flags and
options of elements. What has been derived by such hooks is still what they answer when they are asked
about the form with the new flags in it (`answer?_derive`).
-/

namespace LiveForm

variable {Program : Type}

/-- What an element looks like with its flags and options covered: id, type, title and value. -/
def Element.face (e : Element) : String × ElementType × String × Json :=
  (e.id, e.type, e.title, e.value)

@[simp] theorem Evaluation.withDerived_face (e : Element) (d : Derived) :
    (withDerived e d).face = e.face := rfl

namespace Engine

/-- A hook that cannot see flags and options: what it answers to an element of a form hangs on the faces
of the elements alone. -/
def FlagBlind (engine : Engine Program) (hook : Callable Program) : Prop :=
  ∀ (es es' : List Element) (place : Nat) (e e' : Element),
    es.map Element.face = es'.map Element.face → es[place]? = some e → es'[place]? = some e' →
    (engine.ask hook (Script.elementViews es) (Script.elementView e)).value? =
      (engine.ask hook (Script.elementViews es') (Script.elementView e')).value?

/-- The hooks of an element that are asked for flags and options are flag-blind. -/
def AsksFlagBlind (engine : Engine Program) (e : Element) : Prop :=
  ∀ kind hook, kind ≠ .onValueChanged → engine.hookOf? e kind = some hook → engine.FlagBlind hook

theorem AsksFlagBlind.of_frame {engine : Engine Program} {e e' : Element}
    (h : engine.AsksFlagBlind e) (hframe : e.frame = e'.frame) : engine.AsksFlagBlind e' := by
  intro kind hook hkind hhook
  rw [hookOf?, ← Element.hooks_eq_of_frame hframe] at hhook
  exact h kind hook hkind hhook

/-- An element without hooks for flags and options. -/
theorem AsksFlagBlind.of_unasked {engine : Engine Program} {e : Element}
    (h : ∀ kind, kind ≠ .onValueChanged → e.hooks.source? kind = none) :
    engine.AsksFlagBlind e := by
  intro kind hook hkind hhook
  rw [hookOf?, h kind hkind] at hhook
  cases hhook

/-- Flag-blind hooks give one answer in forms with the same faces. -/
theorem AsksFlagBlind.answer? {engine : Engine Program} {es es' : List Element} {place : Nat}
    {e e' : Element} (h : engine.AsksFlagBlind e) (hface : es.map Element.face = es'.map Element.face)
    (he : es[place]? = some e) (he' : es'[place]? = some e') (hhooks : e'.hooks = e.hooks)
    {kind : HookKind} (hkind : kind ≠ .onValueChanged) :
    engine.answer? es e kind = engine.answer? es' e' kind := by
  have hhook : engine.hookOf? e' kind = engine.hookOf? e kind := by rw [hookOf?, hookOf?, hhooks]
  rw [answer?_eq_ask, answer?_eq_ask, hhook]
  cases hk : engine.hookOf? e kind with
  | none => rfl
  | some hook => exact h kind hook hkind hk es es' place e e' hface he he'

end Engine

namespace Evaluation

/-- What a derivation leaves is what the hooks answer afterwards, if they are flag-blind. -/
theorem answer?_derive {engine : Engine Program} {es es' : List Element}
    (hes : es = (derive engine (es'.map engine.hooksOf) es').1) {e : Element} (he : e ∈ es)
    (hblind : engine.AsksFlagBlind e) :
    e.visible = ((engine.answer? es e .showIf).map Json.truthy).getD true ∧
      e.disabled = (e.capabilities.readOnly ||
        ((engine.answer? es e .disableIf).map Json.truthy).getD false) ∧
      e.dynamicOptions =
        if e.capabilities.options then
          (engine.answer? es e .getOptions).bind fun v => (SelectOption.listOfJson v).toOption
        else none := by
  rw [derive_eq_map] at hes
  have hface : es.map Element.face = es'.map Element.face := by
    rw [hes, List.map_map]
    exact List.map_congr_left fun e _ => withDerived_face e _
  obtain ⟨place, hplace⟩ := List.mem_iff_getElem?.1 he
  -- the element that this one was derived from
  have hfrom := hplace
  rw [hes, List.getElem?_map, Option.map_eq_some_iff] at hfrom
  obtain ⟨e', he', rfl⟩ := hfrom
  have hanswer (kind : HookKind) (hkind : kind ≠ .onValueChanged) :=
    hblind.answer? hface hplace he' rfl hkind
  rw [hanswer .showIf nofun, hanswer .disableIf nofun, hanswer .getOptions nofun, derivedIn_eq]
  exact ⟨rfl, rfl, rfl⟩

end Evaluation

end LiveForm

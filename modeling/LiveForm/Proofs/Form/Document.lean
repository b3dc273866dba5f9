import LiveForm.Proofs.Decimal.Exact
import LiveForm.Proofs.Form.Record

/-!
# Forms that are read back

A form that is written as a document and read again is the form it was, and so is a single element. One thing is
not written: hooks of which all are blank. They come back as hooks that are not there, which makes no difference,
since a blank hook has no source (`Element.withoutBlankHooks`). The bounds of an element have to be finite, as
other floats have no place in a document.

A document may list the members of its records in any order, and it is read the same (`Element.Documents`,
`Definition.Documents`).
-/

namespace LiveForm

open Schema

/-! ## Contents -/

/-- A text as it is written and read. -/
def textContent (s : String) : Json × Datum := (.str s, .text s)

/-- A number as it is written and read. -/
def realContent (x : Float) : Json × Datum := (.ofFloat x, .real x)

/-- An optional text is read as it is written. -/
theorem fits_text {name : String} {aliases : List String} {listed : Bool} {text : Option String} :
    Entry.Fits ⟨⟨name, aliases, false, listed, .optional .text⟩, text.map textContent⟩ := by
  cases text with
  | none => rfl
  | some s => rfl

/-- So is an optional number, if it is finite. -/
theorem fits_real {name : String} {listed : Bool} {bound : Option Float}
    (h : ∀ x ∈ bound, x.isFinite = true) :
    Entry.Fits ⟨⟨name, [], false, listed, .optional .real⟩, bound.map realContent⟩ := by
  cases bound with
  | none => rfl
  | some x =>
    have hreal := Json.ofFloat_of_isFinite (h x rfl)
    show Schema.ofJson? _ (Json.ofFloat x) = some (.real x)
    rw [hreal]
    rfl

theorem textAt?_of_get? {d : Datum} {name : String} {text : Option String}
    (h : d.get? name = (text.map textContent).map (·.2)) : d.textAt? name = text := by
  rw [Datum.textAt?, h]
  cases text <;> rfl

theorem realAt?_of_get? {d : Datum} {name : String} {bound : Option Float}
    (h : d.get? name = (bound.map realContent).map (·.2)) : d.realAt? name = bound := by
  rw [Datum.realAt?, h]
  cases bound <;> rfl

/-- Lists are read item by item. -/
theorem mapM_of_forall₂ {α β γ : Type} {f : β → Option γ} {g : α → γ} {as : List α} {bs : List β}
    (h : List.Forall₂ (fun a b => f b = some (g a)) as bs) : bs.mapM f = some (as.map g) := by
  induction h with
  | nil => rfl
  | cons hab _ ih =>
    rw [List.mapM_cons, hab, ih]
    rfl

/-! ## Options -/

namespace SelectOption

def contents (o : SelectOption) : List (Option (Json × Datum)) :=
  [some (textContent o.label), some (o.value, .value o.value)]

def datum (o : SelectOption) : Datum := .record ((schema.entries o.contents).flatMap Entry.read)

/-- A value that an option may be written as. -/
def Documents (o : SelectOption) : Json → Prop := Written (schema.entries o.contents)

/-- A value that a list of options may be written as. -/
def ListDocuments (options : List SelectOption) (v : Json) : Prop :=
  ∃ items, v = .arr items ∧ List.Forall₂ Documents options items

theorem apart : Apart schema.members := by decide

theorem schema_ofJson? {o : SelectOption} {v : Json} (h : o.Documents v) :
    schema.ofJson? v = some o.datum := by
  refine ofJson?_of_written apart rfl (fun x hx => ?_) h
  rcases List.mem_pair.1 hx with rfl | rfl
  · rfl
  · rfl

theorem ofDatum?_datum (o : SelectOption) : ofDatum? o.datum = some o := rfl

theorem listDocuments_ofJson? {options : List SelectOption} {v : Json} (h : ListDocuments options v) :
    (Schema.list schema).ofJson? v = some (.list (options.map datum)) := by
  obtain ⟨items, rfl, hitems⟩ := h
  rw [Schema.ofJson?, mapM_of_forall₂ (hitems.imp fun _ _ => schema_ofJson?), Option.map_some]

theorem mapM_ofDatum? (options : List SelectOption) :
    (options.map datum).mapM ofDatum? = some options := by
  induction options with
  | nil => rfl
  | cons o options ih =>
    rw [List.map_cons, List.mapM_cons, ofDatum?_datum, ih]
    rfl

theorem listDocuments_listToJson (options : List SelectOption) :
    ListDocuments options (listToJson options) := by
  refine ⟨_, rfl, ?_⟩
  rw [List.forall₂_map_right_iff]
  exact List.forall₂_same.2 fun o _ => ⟨_, rfl, List.Perm.refl _⟩

end SelectOption

/-! ## Hooks -/

namespace Hooks

def contents (h : Hooks) : List (Option (Json × Datum)) :=
  [h.showIf.map textContent, h.disableIf.map textContent, h.getOptions.map textContent,
    h.onValueChanged.map textContent]

def datum (h : Hooks) : Datum := .record ((schema.entries h.contents).flatMap Entry.read)

/-- A value that hooks may be written as. -/
def Documents (h : Hooks) : Json → Prop := Written (schema.entries h.contents)

theorem apart : Apart schema.members := by decide

theorem schema_ofJson? {h : Hooks} {v : Json} (hv : h.Documents v) : schema.ofJson? v = some h.datum := by
  refine ofJson?_of_written apart rfl (fun x hx => ?_) hv
  simp only [entries, Schema.members, schema, contents, List.zipWith_cons_cons, List.zipWith_nil_left,
    List.mem_cons, List.not_mem_nil, or_false] at hx
  rcases hx with rfl | rfl | rfl | rfl <;> exact fits_text

theorem ofDatum_datum (h : Hooks) : ofDatum h.datum = h := by
  obtain ⟨showIf, disableIf, getOptions, onValueChanged⟩ := h
  cases showIf <;> cases disableIf <;> cases getOptions <;> cases onValueChanged <;> rfl

theorem documents_toJson (h : Hooks) : h.Documents h.toJson := by
  refine ⟨_, rfl, List.Perm.of_eq ?_⟩
  obtain ⟨showIf, disableIf, getOptions, onValueChanged⟩ := h
  cases showIf <;> cases disableIf <;> cases getOptions <;> cases onValueChanged <;> rfl

/-- Hooks, unless they are all blank. -/
def nonblank (h : Hooks) : Hooks := if h.isEmpty then {} else h

theorem nonblank_source? (h : Hooks) (kind : HookKind) : h.nonblank.source? kind = h.source? kind := by
  rw [nonblank]
  split
  case isTrue hempty =>
    have hall := List.all_eq_true.1 hempty kind (by cases kind <;> decide)
    rw [Option.isNone_iff_eq_none.1 hall]
    cases kind <;> rfl
  case isFalse => rfl

theorem nonblank_isEmpty (h : Hooks) : h.nonblank.isEmpty = h.isEmpty := by
  simp only [isEmpty, nonblank_source?]

end Hooks

/-! ## Elements -/

theorem ElementType.ofName?_name (t : ElementType) : ofName? t.name = some t := by
  cases t <;> decide

namespace Element

/-- The bounds and the step are finite where they are there. -/
structure FiniteBounds (e : Element) : Prop where
  min : ∀ x ∈ e.min, x.isFinite = true
  max : ∀ x ∈ e.max, x.isFinite = true
  step : ∀ x ∈ e.step, x.isFinite = true

/-- An element whose hooks are not there if they are all blank. -/
def withoutBlankHooks (e : Element) : Element := { e with hooks := e.hooks.nonblank }

/-- The members of an element, with these values for its options and hooks. -/
def contents (e : Element) (options dynamic hooks : Json) : List (Option (Json × Datum)) :=
  [some (textContent e.id), some (textContent e.type.name), some (textContent e.title),
    some (e.value, .value e.value), some (.bool e.disabled, .flag e.disabled),
    some (.bool e.visible, .flag e.visible),
    if e.options.isEmpty then none else some (options, .list (e.options.map SelectOption.datum)),
    e.dynamicOptions.map fun os => (dynamic, .list (os.map SelectOption.datum)),
    if e.hooks.isEmpty then none else some (hooks, e.hooks.datum),
    e.action.map textContent, e.label.map textContent, e.min.map realContent, e.max.map realContent,
    e.step.map realContent, e.language.map textContent, e.tooltip.map textContent,
    e.group.map textContent]

/-- A value that an element may be written as. -/
def Documents (e : Element) (v : Json) : Prop :=
  ∃ options dynamic hooks, SelectOption.ListDocuments e.options options ∧
    (∀ os ∈ e.dynamicOptions, SelectOption.ListDocuments os dynamic) ∧ e.hooks.Documents hooks ∧
    Written (schema.entries (e.contents options dynamic hooks)) v

theorem apart : Apart schema.members := by decide

variable {e : Element} {options dynamic hooks : Json}

theorem entries_fit (hbounds : e.FiniteBounds) (hoptions : SelectOption.ListDocuments e.options options)
    (hdynamic : ∀ os ∈ e.dynamicOptions, SelectOption.ListDocuments os dynamic)
    (hhooks : e.hooks.Documents hooks) :
    ∀ x ∈ schema.entries (e.contents options dynamic hooks), x.Fits := by
  simp only [entries, Schema.members, schema, contents, List.zipWith_cons_cons, List.zipWith_nil_left,
    List.forall_mem_cons]
  refine ⟨rfl, ?_, rfl, rfl, rfl, rfl, ?_, ?_, ?_, fits_text, fits_text, fits_real hbounds.min,
    fits_real hbounds.max, fits_real hbounds.step, fits_text, fits_text, fits_text, nofun⟩
  · -- the type
    cases e.type <;> rfl
  · split
    · rfl
    · exact SelectOption.listDocuments_ofJson? hoptions
  · cases hos : e.dynamicOptions with
    | none => rfl
    | some os =>
      have hread := SelectOption.listDocuments_ofJson? (hdynamic os hos)
      obtain ⟨items, rfl, -⟩ := hdynamic os hos
      exact hread
  · split
    · rfl
    · exact Hooks.schema_ofJson? hhooks

/-- **What has been read of an element** is the element. -/
theorem ofDatum?_read (e : Element) (options dynamic hooks : Json) :
    ofDatum? (.record ((schema.entries (e.contents options dynamic hooks)).flatMap Entry.read)) =
      some e.withoutBlankHooks := by
  generalize hd : Datum.record ((schema.entries (e.contents options dynamic hooks)).flatMap Entry.read) = d
  have hapart : Apart ((schema.entries (e.contents options dynamic hooks)).map (·.member)) := apart
  have hget (i : Nat) {x : Entry} (hx : (schema.entries (e.contents options dynamic hooks))[i]? = some x) :
      d.get? x.member.name = x.content.map (·.2) := by
    rw [← hd]
    exact get?_read hapart (List.mem_of_getElem? hx)
  have hid : d.textAt? "id" = some e.id := textAt?_of_get? (hget 0 rfl)
  have htype : d.textAt? "type" = some e.type.name := textAt?_of_get? (hget 1 rfl)
  have htitle : d.textAt? "title" = some e.title := textAt?_of_get? (hget 2 rfl)
  have hvalue : d.valueAt? "value" = some e.value := by rw [Datum.valueAt?, hget 3 rfl]; rfl
  have hdisabled : d.flagAt? "disabled" = some e.disabled := by rw [Datum.flagAt?, hget 4 rfl]; rfl
  have hvisible : d.flagAt? "visible" = some e.visible := by rw [Datum.flagAt?, hget 5 rfl]; rfl
  have hoptions : ((d.listAt? "options").getD []).mapM SelectOption.ofDatum? = some e.options := by
    rw [Datum.listAt?, hget 6 rfl]
    cases hempty : e.options with
    | nil => rfl
    | cons o os => exact SelectOption.mapM_ofDatum? _
  have hhooks : ((d.get? "hooks").map Hooks.ofDatum).getD {} = e.hooks.nonblank := by
    rw [hget 8 rfl, Hooks.nonblank]
    cases e.hooks.isEmpty with
    | true => rfl
    | false => exact Hooks.ofDatum_datum e.hooks
  have haction : d.textAt? "action" = e.action := textAt?_of_get? (hget 9 rfl)
  have hlabel : d.textAt? "label" = e.label := textAt?_of_get? (hget 10 rfl)
  have hmin : d.realAt? "min" = e.min := realAt?_of_get? (hget 11 rfl)
  have hmax : d.realAt? "max" = e.max := realAt?_of_get? (hget 12 rfl)
  have hstep : d.realAt? "step" = e.step := realAt?_of_get? (hget 13 rfl)
  have hlanguage : d.textAt? "language" = e.language := textAt?_of_get? (hget 14 rfl)
  have htooltip : d.textAt? "tooltip" = e.tooltip := textAt?_of_get? (hget 15 rfl)
  have hgroup : d.textAt? "section" = e.group := textAt?_of_get? (hget 16 rfl)
  have hdynamic : d.listAt? "dynamic_options" =
      e.dynamicOptions.map fun os => os.map SelectOption.datum := by
    rw [Datum.listAt?, hget 7 rfl]
    cases e.dynamicOptions <;> rfl
  simp only [ofDatum?, hoptions, hdynamic, hid, htype, htitle, hvalue, hdisabled, hvisible, hhooks, haction,
    hlabel, hmin, hmax, hstep, hlanguage, htooltip, hgroup, Option.bind_eq_bind, Option.bind_some,
    ElementType.ofName?_name, Option.getD_some]
  rw [withoutBlankHooks]
  cases e.dynamicOptions with
  | none => rfl
  | some os =>
    simp only [Option.map_some, SelectOption.mapM_ofDatum?]
    rfl

theorem schema_ofJson? (hbounds : e.FiniteBounds) {v : Json} (h : e.Documents v) :
    ∃ d, schema.ofJson? v = some d ∧ ofDatum? d = some e.withoutBlankHooks := by
  obtain ⟨options, dynamic, hooks, hoptions, hdynamic, hhooks, hwritten⟩ := h
  exact ⟨_, ofJson?_of_written apart rfl (entries_fit hbounds hoptions hdynamic hhooks) hwritten,
    ofDatum?_read e options dynamic hooks⟩

/-- **An element is read back.** -/
theorem ofJson?_of_documents (hbounds : e.FiniteBounds) {v : Json} (h : e.Documents v) :
    ofJson? v = some e.withoutBlankHooks := by
  obtain ⟨d, hread, hmeans⟩ := schema_ofJson? hbounds h
  rw [ofJson?, hread, Option.bind_some, hmeans]

theorem documents_toJson (e : Element) : e.Documents e.toJson := by
  refine ⟨SelectOption.listToJson e.options, SelectOption.listToJson (e.dynamicOptions.getD []),
    e.hooks.toJson, SelectOption.listDocuments_listToJson _, ?_, e.hooks.documents_toJson, _, rfl,
    List.Perm.of_eq ?_⟩
  · intro os hos
    obtain hos : e.dynamicOptions = some os := hos
    rw [hos]
    exact SelectOption.listDocuments_listToJson os
  · simp only [entries, Schema.members, schema, contents, List.zipWith_cons_cons, List.zipWith_nil_left,
      List.flatMap_cons, List.flatMap_nil, Entry.written, List.append_assoc]
    cases e.options.isEmpty <;> cases e.hooks.isEmpty <;> cases e.dynamicOptions <;>
      simp [optionalMember, textContent, realContent, Function.comp_def]

/-- Blank hooks are not written. -/
theorem toJson_withoutBlankHooks (e : Element) : e.withoutBlankHooks.toJson = e.toJson := by
  have hempty : e.withoutBlankHooks.hooks.isEmpty = e.hooks.isEmpty := e.hooks.nonblank_isEmpty
  rw [toJson, toJson, hempty]
  cases h : e.hooks.isEmpty with
  | true => rfl
  | false =>
    have hkept : e.withoutBlankHooks.hooks = e.hooks := by
      show e.hooks.nonblank = e.hooks
      rw [Hooks.nonblank, h]
      rfl
    rw [hkept]
    rfl

end Element

/-! ## Forms -/

namespace Definition

/-- A form whose elements have no hooks where they are all blank. -/
def withoutBlankHooks (d : Definition) : Definition :=
  { d with elements := d.elements.map Element.withoutBlankHooks }

def contents (d : Definition) (items : List Json) (read : List Datum) : List (Option (Json × Datum)) :=
  [some ((d.title.map textContent).getD (.null, .absent)), some (.arr items, .list read)]

/-- A value that a form may be written as. -/
def Documents (d : Definition) (v : Json) : Prop :=
  ∃ items members, List.Forall₂ Element.Documents d.elements items ∧ v = .obj members ∧
    members.Perm [("title", (d.title.map Json.str).getD .null), ("elements", .arr items)]

theorem flatMap_written (d : Definition) (items : List Json) (read : List Datum) :
    (schema.entries (d.contents items read)).flatMap Entry.written =
      [("title", (d.title.map Json.str).getD .null), ("elements", .arr items)] := by
  rw [contents]
  cases d.title <;> rfl

theorem apart : Apart schema.members := by decide

/-- The elements of a form are read one by one. -/
theorem elements_read {es : List Element} (hbounds : ∀ e ∈ es, e.FiniteBounds) {items : List Json}
    (h : List.Forall₂ Element.Documents es items) :
    ∃ read, items.mapM Element.schema.ofJson? = some read ∧
      read.mapM Element.ofDatum? = some (es.map Element.withoutBlankHooks) := by
  induction h with
  | nil => exact ⟨[], rfl, rfl⟩
  | cons hfirst _ ih =>
    obtain ⟨hbound, hbounds⟩ := List.forall_mem_cons.1 hbounds
    obtain ⟨d, hread, hmeans⟩ := Element.schema_ofJson? hbound hfirst
    obtain ⟨read, hreads, hall⟩ := ih hbounds
    refine ⟨d :: read, ?_, ?_⟩
    · rw [List.mapM_cons, hread, hreads]
      rfl
    · rw [List.mapM_cons, hmeans, hall]
      rfl

theorem ofDatum?_read (d : Definition) (items : List Json) {read : List Datum}
    (h : read.mapM Element.ofDatum? = some (d.elements.map Element.withoutBlankHooks)) :
    ofDatum? (.record ((schema.entries (d.contents items read)).flatMap Entry.read)) =
      some d.withoutBlankHooks := by
  generalize hd : Datum.record ((schema.entries (d.contents items read)).flatMap Entry.read) = datum
  have htitle : datum.textAt? "title" = d.title := by
    rw [← hd, contents]
    cases d.title <;> rfl
  have helements : datum.listAt? "elements" = some read := by
    rw [← hd]
    rfl
  simp only [ofDatum?, helements, htitle, h, Option.bind_eq_bind, Option.bind_some]
  rfl

/-- **A form is read back.** -/
theorem ofJson?_of_documents {d : Definition} (hbounds : ∀ e ∈ d.elements, e.FiniteBounds) {v : Json}
    (h : d.Documents v) : ofJson? v = some d.withoutBlankHooks := by
  obtain ⟨items, members, hitems, rfl, hperm⟩ := h
  obtain ⟨read, hread, hmeans⟩ := elements_read hbounds hitems
  rw [← d.flatMap_written items read] at hperm
  have hfits : ∀ x ∈ schema.entries (d.contents items read), x.Fits := by
    intro x hx
    rcases List.mem_pair.1 hx with rfl | rfl
    · cases d.title <;> rfl
    · show Schema.ofJson? (.list Element.schema) (.arr items) = _
      rw [Schema.ofJson?, hread]
      rfl
  have hrecord : schema.ofJson? (.obj members) =
      some (.record ((schema.entries (d.contents items read)).flatMap Entry.read)) :=
    ofJson?_of_written apart rfl hfits ⟨members, rfl, hperm⟩
  rw [ofJson?, hrecord, Option.bind_some, d.ofDatum?_read items hmeans]

theorem documents_toJson (d : Definition) : d.Documents d.toJson := by
  refine ⟨d.elements.map Element.toJson, _, ?_, rfl, List.Perm.refl _⟩
  rw [List.forall₂_map_right_iff]
  exact List.forall₂_same.2 fun e _ => e.documents_toJson

theorem toJson_withoutBlankHooks (d : Definition) : d.withoutBlankHooks.toJson = d.toJson := by
  have helements : d.withoutBlankHooks.elements.map Element.toJson = d.elements.map Element.toJson := by
    rw [withoutBlankHooks, List.map_map]
    exact List.map_congr_left fun e _ => e.toJson_withoutBlankHooks
  rw [toJson, toJson, helements]
  rfl

end Definition

/-- **Elements and forms are read back.** Let the bounds and the step of an element be finite where they are
there. Reading what it is written as, with the members of its records in any order, gives the element, but for
blank hooks that are not there if there are no others. So every hook has the source it had, the same options are
on offer, and what is written of it is the same. A form is read back element by element, with its title. -/
theorem documents_read_back :
    (∀ e : Element, e.FiniteBounds →
      let e' := { e with hooks := if e.hooks.isEmpty then {} else e.hooks }
      Element.ofJson? e.toJson = some e' ∧ (∀ v, e.Documents v → Element.ofJson? v = some e') ∧
        (∀ kind, e'.hooks.source? kind = e.hooks.source? kind) ∧
        e'.effectiveOptions = e.effectiveOptions ∧ e'.toJson = e.toJson) ∧
    ∀ d : Definition, (∀ e ∈ d.elements, e.FiniteBounds) →
      let d' := { d with elements := d.elements.map fun e =>
        { e with hooks := if e.hooks.isEmpty then {} else e.hooks } }
      Definition.ofJson? d.toJson = some d' ∧ (∀ v, d.Documents v → Definition.ofJson? v = some d') ∧
        d'.toJson = d.toJson := by
  constructor
  · intro e hbounds e'
    exact ⟨Element.ofJson?_of_documents hbounds e.documents_toJson,
      fun v hv => Element.ofJson?_of_documents hbounds hv, e.hooks.nonblank_source?, rfl,
      e.toJson_withoutBlankHooks⟩
  · intro d hbounds d'
    exact ⟨Definition.ofJson?_of_documents hbounds d.documents_toJson,
      fun v hv => Definition.ofJson?_of_documents hbounds hv, d.toJson_withoutBlankHooks⟩

/-- A slider with a blank hook, and with a list of options that is empty and not absent. -/
theorem documents_read_back_slider :
    let e : Element :=
      { id := "s", type := .slider, value := .int 5, dynamicOptions := some []
        hooks := { showIf := some " " }, min := some 0, max := some 10 }
    let read := { e with hooks := {} }
    e.FiniteBounds ∧ Element.ofJson? e.toJson = some read ∧
      Definition.ofJson? (Definition.toJson { elements := [e] }) = some { elements := [read] } := by
  intro e read
  have hbounds : e.FiniteBounds := ⟨by decide +kernel, by decide +kernel, by decide +kernel⟩
  have hread : { e with hooks := if e.hooks.isEmpty then {} else e.hooks } = read := by decide +kernel
  obtain ⟨helements, hforms⟩ := documents_read_back
  refine ⟨hbounds, ?_, ?_⟩
  · rw [← hread]
    exact (helements e hbounds).1
  · rw [← hread]
    exact (hforms { elements := [e] } (List.forall_mem_singleton.2 hbounds)).1

end LiveForm

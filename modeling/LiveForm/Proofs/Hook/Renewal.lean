import LiveForm.Proofs.Form.Frame
import LiveForm.Proofs.Hook.Cache

/-!
# What is compiled, and when

A form has a slot for a hook of every kind in each of its elements, and the hooks it has are written as a list
of keys with their sources (`hookSources`). A registry holds such a list too. Resolving slots of a form makes
the registry hold what is written there and leaves what it holds of other slots; what is compiled on the way,
and reported if it does not compile, is just what it did not hold before (`Registry.Resolves`).

This is closed under composition: slots that are resolved later see what was held at first, since slots of
distinct keys do not touch each other (`Resolves.trans`). So a registry that held the hooks of one form and
resolves those of another compiles the hooks that the other has and the first has not (`renewed`), and holds
those of the other (`Reflects.resolveAll`).
-/

namespace LiveForm

variable {Program : Type}

/-! ## Hooks as they are written -/

/-- A hook as it is written: its key and its source. -/
abbrev HookSource := HookKey × String

/-- Where a hook may be written: in an element, of a kind. -/
abbrev HookSlot := Element × HookKind

namespace HookSlot

def key (slot : HookSlot) : HookKey := (slot.1.id, slot.2)

/-- What is written in a slot: one hook, or none. -/
def written (slot : HookSlot) : List HookSource :=
  (slot.1.hooks.source? slot.2).toList.map (slot.key, ·)

theorem key_of_mem_written {slot : HookSlot} {h : HookSource} (hh : h ∈ slot.written) :
    h.1 = slot.key := by
  obtain ⟨source, -, rfl⟩ := List.mem_map.1 hh
  rfl

end HookSlot

/-- What is written in several slots. -/
def written (slots : List HookSlot) : List HookSource := slots.flatMap HookSlot.written

theorem key_of_mem_written {slots : List HookSlot} {h : HookSource} (hh : h ∈ written slots) :
    h.1 ∈ slots.map HookSlot.key := by
  obtain ⟨slot, hslot, hh⟩ := List.mem_flatMap.1 hh
  rw [HookSlot.key_of_mem_written hh]
  exact List.mem_map_of_mem hslot

/-- The slots of an element. -/
def Element.slots (e : Element) : List HookSlot := HookKind.all.map (e, ·)

/-- The slots of a form, in the order in which they are resolved. -/
def slots (es : List Element) : List HookSlot := es.flatMap Element.slots

/-- **The hooks of a form.** -/
def hookSources (es : List Element) : List HookSource := written (slots es)

theorem hookSources_of_frame {es es' : List Element}
    (h : es.map Element.frame = es'.map Element.frame) : hookSources es = hookSources es' := by
  have hmap : es.map (fun e => written e.slots) = es'.map fun e => written e.slots :=
    map_eq_of_frame _ (fun _ => rfl) h
  have hflat (es : List Element) : hookSources es = (es.map fun e => written e.slots).flatten := by
    rw [hookSources, written, slots, List.flatMap_assoc, List.flatMap_def]
    rfl
  rw [hflat, hmap, hflat]

theorem mem_slots_key {es : List Element} {key : HookKey} :
    key ∈ (slots es).map HookSlot.key ↔ key.1 ∈ es.map (·.id) := by
  constructor
  · intro h
    obtain ⟨slot, hslot, rfl⟩ := List.mem_map.1 h
    obtain ⟨e, he, hslot⟩ := List.mem_flatMap.1 hslot
    obtain ⟨kind, -, rfl⟩ := List.mem_map.1 hslot
    exact List.mem_map_of_mem he
  · intro h
    obtain ⟨e, he, hid⟩ := List.mem_map.1 h
    obtain ⟨id, kind⟩ := key
    obtain rfl : e.id = id := hid
    have hkind : kind ∈ HookKind.all := by cases kind <;> decide
    exact List.mem_map.2
      ⟨(e, kind), List.mem_flatMap.2 ⟨e, he, List.mem_map_of_mem hkind⟩, rfl⟩

/-- There is at most one hook in a slot. -/
theorem written_sublist (slots : List HookSlot) :
    ((written slots).map (·.1)).Sublist (slots.map HookSlot.key) := by
  induction slots with
  | nil => exact List.Sublist.slnil
  | cons slot slots ih =>
    have hslot : (slot.written.map (·.1)).Sublist [slot.key] := by
      rw [HookSlot.written]
      cases slot.1.hooks.source? slot.2 with
      | none => exact List.nil_sublist _
      | some source => exact List.Sublist.refl _
    rw [written, List.flatMap_cons, List.map_append]
    exact hslot.append ih

/-- Under distinct ids, each hook is there once. -/
theorem nodup_hookSources {es : List Element} (hd : Distinct es) : (hookSources es).Nodup := by
  have hslots : (slots es).map HookSlot.key = es.map (·.id) ×ˢ HookKind.all := by
    show _ = (es.map (·.id)).flatMap fun id => HookKind.all.map (Prod.mk id)
    rw [slots, List.map_flatMap, List.flatMap_map]
    rfl
  have hkeys : ((slots es).map HookSlot.key).Nodup := by
    rw [hslots]
    exact hd.product (by decide)
  exact List.Nodup.of_map (·.1) (hkeys.sublist (written_sublist _))

/-- The hooks that a form has and another has not: those that are new or whose source has changed. -/
def renewed (before after : List Element) : List HookSource :=
  (hookSources after).filter (· ∉ hookSources before)

/-- A form is all new to one that was not there. -/
theorem renewed_nil (es : List Element) : renewed [] es = hookSources es :=
  List.filter_eq_self.2 fun _ _ => rfl

/-- What there is to report of a hook: the error of its source, if this does not compile. -/
def Engine.hookError? (engine : Engine Program) (h : HookSource) : Option Diagnostic :=
  (engine.compileHook HookKind.parameters h.2).2.map (Diagnostic.hookCompileError h.1.1 h.1.2)

/-! ## Hooks that a registry holds -/

namespace Registry

variable {engine : Engine Program} {r r₁ r₂ : Registry Program}

/-- The hooks that have an entry. -/
def holds (r : Registry Program) : List HookSource :=
  r.entries.map fun (key, entry) => (key, entry.source)

/-- There is one entry under each key. -/
def Keyed (r : Registry Program) : Prop := (r.entries.map (·.1)).Nodup

theorem mem_holds {h : HookSource} :
    h ∈ r.holds ↔ ∃ entry ∈ r.entries, entry.1 = h.1 ∧ entry.2.source = h.2 := by
  simp only [holds, List.mem_map, Prod.ext_iff]

/-- **A hit** is a hook that is held. -/
theorem fresh?_isSome (hr : r.Keyed) {key : HookKey} {source : String} :
    (r.fresh? key source).isSome = true ↔ (key, source) ∈ r.holds := by
  rw [Option.isSome_iff_exists, mem_holds]
  constructor
  · rintro ⟨entry, hentry⟩
    obtain ⟨hget, hsource⟩ := Option.filter_eq_some_iff.1 hentry
    obtain ⟨front, rest, hentries, -⟩ := List.lookup_eq_some_iff.1 hget
    refine ⟨(key, entry), ?_, rfl, eq_of_beq hsource⟩
    rw [hentries]
    exact List.mem_append_right _ List.mem_cons_self
  · rintro ⟨⟨key', entry⟩, hentry, rfl, rfl⟩
    obtain ⟨front, rest, hentries⟩ := List.append_of_mem hentry
    -- no entry in front has the key
    have hfront : ∀ other ∈ front, (key' != other.1) = true := by
      intro other hother
      rw [Keyed, hentries, List.map_append, List.map_cons, List.nodup_append] at hr
      exact bne_iff_ne.2
        (hr.2.2 other.1 (List.mem_map_of_mem hother) key' List.mem_cons_self).symm
    refine ⟨entry, Option.filter_eq_some_iff.2 ⟨?_, beq_self_eq_true _⟩⟩
    exact List.lookup_eq_some_iff.2 ⟨front, rest, hentries, hfront⟩

theorem Keyed.erase (hr : r.Keyed) (key : HookKey) : (r.erase key).Keyed :=
  hr.sublist (List.filter_sublist.map _)

theorem mem_holds_erase {key : HookKey} {h : HookSource} :
    h ∈ (r.erase key).holds ↔ h ∈ r.holds ∧ h.1 ≠ key := by
  simp only [mem_holds, erase, List.mem_filter, bne_iff_ne]
  constructor
  · rintro ⟨entry, ⟨hentry, hne⟩, hkey, hsource⟩
    exact ⟨⟨entry, hentry, hkey, hsource⟩, hkey ▸ hne⟩
  · rintro ⟨⟨entry, hentry, hkey, hsource⟩, hne⟩
    exact ⟨entry, ⟨hentry, hkey ▸ hne⟩, hkey, hsource⟩

theorem Keyed.insert (hr : r.Keyed) (key : HookKey) (entry : CachedHook Program) :
    (r.insert key entry).Keyed := by
  refine List.nodup_cons.2 ⟨fun hmem => ?_, hr.erase key⟩
  obtain ⟨other, hother, hkey⟩ := List.mem_map.1 hmem
  exact bne_iff_ne.1 (List.mem_filter.1 hother).2 hkey

theorem mem_holds_insert {key : HookKey} {entry : CachedHook Program} {h : HookSource} :
    h ∈ (r.insert key entry).holds ↔ h ∈ r.holds ∧ h.1 ≠ key ∨ h = (key, entry.source) := by
  rw [← mem_holds_erase, or_comm]
  exact List.mem_cons

/-- A hook is held with one source. -/
theorem Keyed.source_eq (hr : r.Keyed) {key : HookKey} {source source' : String}
    (h : (key, source) ∈ r.holds) (h' : (key, source') ∈ r.holds) : source = source' := by
  obtain ⟨entry, hentry, hkey, rfl⟩ := mem_holds.1 h
  obtain ⟨entry', hentry', hkey', rfl⟩ := mem_holds.1 h'
  rw [List.inj_on_of_nodup_map hr hentry hentry' (hkey.trans hkey'.symm)]

/-! ## Resolving slots -/

/-- The hooks that are not held. -/
def unseen (r : Registry Program) (hs : List HookSource) : List HookSource :=
  hs.filter (· ∉ r.holds)

/-- **What resolving slots does** to a registry, with what is reported on the way. -/
structure Resolves (engine : Engine Program) (r : Registry Program) (slots : List HookSlot)
    (ds : List Diagnostic) (r' : Registry Program) : Prop where
  keyed : r'.Keyed
  /-- The hooks of these slots are held as they are written now, and those of others as before. -/
  holds : ∀ h, h ∈ r'.holds ↔ h ∈ r.holds ∧ h.1 ∉ slots.map HookSlot.key ∨ h ∈ written slots
  /-- What has not been held is compiled. -/
  compilations : r'.compilations = r.compilations + (r.unseen (written slots)).length
  /-- And it is reported if it does not compile. -/
  errors : ds = (r.unseen (written slots)).filterMap engine.hookError?

theorem Resolves.nil (hr : r.Keyed) : Resolves engine r [] [] r where
  keyed := hr
  holds h := by simp [written]
  compilations := rfl
  errors := rfl

theorem unseen_eq_nil {hs : List HookSource} (h : ∀ x ∈ hs, x ∈ r.holds) : r.unseen hs = [] :=
  List.filter_eq_nil_iff.2 fun x hx => by simpa using h x hx

theorem unseen_eq_self {hs : List HookSource} (h : ∀ x ∈ hs, x ∉ r.holds) : r.unseen hs = hs :=
  List.filter_eq_self.2 fun x hx => by simpa using h x hx

theorem written_singleton (slot : HookSlot) : written [slot] = slot.written := by
  rw [written, List.flatMap_cons, List.flatMap_nil, List.append_nil]

/-- **One slot.** -/
theorem Keyed.resolveKind (hr : r.Keyed) (engine : Engine Program) (e : Element) (kind : HookKind) :
    Resolves engine r [(e, kind)] (r.resolveKind engine e kind).2.1
      (r.resolveKind engine e kind).2.2 := by
  simp only [Registry.resolveKind]
  cases hsource : e.hooks.source? kind with
  | none =>
    -- nothing is written: what was held of the slot goes
    have hwritten : written [(e, kind)] = [] := by
      rw [written_singleton, HookSlot.written, hsource]
      rfl
    refine ⟨hr.erase _, fun h => ?_, by rw [hwritten]; rfl, by rw [hwritten]; rfl⟩
    rw [mem_holds_erase, hwritten, List.map_singleton, List.mem_singleton]
    simp [HookSlot.key]
  | some source =>
    have hwritten : written [(e, kind)] = [((e.id, kind), source)] := by
      rw [written_singleton, HookSlot.written, hsource]
      rfl
    cases hfresh : r.fresh? (e.id, kind) source with
    | some entry =>
      -- hit: the registry stays, as it holds this hook and no other of the slot
      have hheld : ((e.id, kind), source) ∈ r.holds := (fresh?_isSome hr).1 (hfresh ▸ rfl)
      have hunseen : r.unseen (written [(e, kind)]) = [] := by
        rw [hwritten]
        exact unseen_eq_nil fun x hx => List.mem_singleton.1 hx ▸ hheld
      simp only [hfresh]
      refine ⟨hr, fun h => ?_, by rw [hunseen]; rfl, by rw [hunseen]; rfl⟩
      rw [hwritten, List.mem_singleton, List.map_singleton, List.mem_singleton]
      constructor
      · intro hh
        by_cases hkey : h.1 = (e.id, kind)
        · obtain ⟨key, source'⟩ := h
          obtain rfl : key = (e.id, kind) := hkey
          rw [hr.source_eq hh hheld]
          exact .inr rfl
        · exact .inl ⟨hh, hkey⟩
      · rintro (⟨hh, -⟩ | rfl)
        · exact hh
        · exact hheld
    | none =>
      -- miss: the source is compiled, and the new entry takes the place of the old one
      have hnew : ((e.id, kind), source) ∉ r.holds := fun hheld => by
        have hsome := (fresh?_isSome hr).2 hheld
        rw [hfresh] at hsome
        cases hsome
      have hunseen : r.unseen (written [(e, kind)]) = [((e.id, kind), source)] := by
        rw [hwritten]
        exact unseen_eq_self fun x hx => List.mem_singleton.1 hx ▸ hnew
      simp only [hfresh]
      refine ⟨hr.insert _ _, fun h => ?_, by rw [hunseen]; rfl, ?_⟩
      · rw [hwritten, List.mem_singleton, List.map_singleton, List.mem_singleton]
        exact mem_holds_insert
      · rw [hunseen, List.filterMap_cons, Engine.hookError?]
        cases (engine.compileHook HookKind.parameters source).2 <;> rfl

/-- **Slots one after the other.** The later ones see what was held at first, if they have other keys. -/
theorem Resolves.trans {front rest : List HookSlot} {ds ds' : List Diagnostic}
    (h₁ : Resolves engine r front ds r₁) (h₂ : Resolves engine r₁ rest ds' r₂)
    (hkeys : ∀ key ∈ front.map HookSlot.key, key ∉ rest.map HookSlot.key) :
    Resolves engine r (front ++ rest) (ds ++ ds') r₂ := by
  have hwritten : written (front ++ rest) = written front ++ written rest := List.flatMap_append
  have hunseen : r₁.unseen (written rest) = r.unseen (written rest) := by
    refine List.filter_congr fun h hh => ?_
    have hrest := key_of_mem_written hh
    have hheld : h ∈ r₁.holds ↔ h ∈ r.holds := by
      rw [h₁.holds]
      constructor
      · rintro (⟨hheld, -⟩ | hfront)
        · exact hheld
        · exact absurd hrest (hkeys _ (key_of_mem_written hfront))
      · exact fun hheld => .inl ⟨hheld, fun hfront => hkeys _ hfront hrest⟩
    exact decide_eq_decide.2 (not_congr hheld)
  have hall : r.unseen (written (front ++ rest)) =
      r.unseen (written front) ++ r₁.unseen (written rest) := by
    rw [hunseen, hwritten, unseen, List.filter_append]
    rfl
  constructor
  · exact h₂.keyed
  · intro h
    rw [h₂.holds, h₁.holds, hwritten, List.map_append, List.mem_append, List.mem_append]
    constructor
    · rintro (⟨⟨hheld, hfront⟩ | hfront, hrest⟩ | hrest)
      · exact .inl ⟨hheld, not_or.2 ⟨hfront, hrest⟩⟩
      · exact .inr (.inl hfront)
      · exact .inr (.inr hrest)
    · rintro (⟨hheld, hkey⟩ | hfront | hrest)
      · obtain ⟨hfront, hrest⟩ := not_or.1 hkey
        exact .inl ⟨.inl ⟨hheld, hfront⟩, hrest⟩
      · exact .inl ⟨.inr hfront, hkeys _ (key_of_mem_written hfront)⟩
      · exact .inr hrest
  · rw [h₂.compilations, h₁.compilations, hall, List.length_append, Nat.add_assoc]
  · rw [h₁.errors, h₂.errors, hall, List.filterMap_append]

/-- The slots of one element. -/
theorem Keyed.resolve (hr : r.Keyed) (engine : Engine Program) (e : Element) :
    Resolves engine r e.slots (r.resolve engine e).2.1 (r.resolve engine e).2.2 := by
  have hother (kinds : List HookKind) (kind : HookKind) (hkind : kind ∉ kinds) :
      ∀ key ∈ (kinds.map fun kind => (e, kind)).map HookSlot.key,
        key ∉ [(e, kind)].map HookSlot.key := by
    intro key hkey hmem
    rw [List.map_singleton, List.mem_singleton] at hmem
    obtain ⟨slot, hslot, rfl⟩ := List.mem_map.1 hkey
    obtain ⟨other, hother, rfl⟩ := List.mem_map.1 hslot
    obtain rfl : other = kind := congrArg Prod.snd hmem
    exact hkind hother
  have h₁ := hr.resolveKind engine e .showIf
  have h₂ := h₁.trans (h₁.keyed.resolveKind engine e .disableIf) (hother [.showIf] _ (by decide))
  have h₃ := h₂.trans (h₂.keyed.resolveKind engine e .getOptions)
    (hother [.showIf, .disableIf] _ (by decide))
  exact h₃.trans (h₃.keyed.resolveKind engine e .onValueChanged)
    (hother [.showIf, .disableIf, .getOptions] _ (by decide))

/-- **The slots of a form.** -/
theorem Keyed.resolveAll (hr : r.Keyed) (engine : Engine Program) {es : List Element}
    (hd : Distinct es) :
    Resolves engine r (slots es) (r.resolveAll engine es).2.1 (r.resolveAll engine es).2.2 := by
  induction es generalizing r with
  | nil => exact Resolves.nil hr
  | cons e es ih =>
    obtain ⟨hid, hd⟩ := List.nodup_cons.1 hd
    have hfirst := hr.resolve engine e
    refine hfirst.trans (ih hfirst.keyed hd) fun key hkey hrest => hid ?_
    obtain ⟨slot, hslot, rfl⟩ := List.mem_map.1 hkey
    obtain ⟨kind, -, rfl⟩ := List.mem_map.1 hslot
    exact mem_slots_key.1 hrest

/-! ## What resolving looks at -/

/-- Resolving looks at ids and hooks only, which are in the frame. -/
theorem resolveAll_of_frame (r : Registry Program) {es es' : List Element}
    (h : es.map Element.frame = es'.map Element.frame) :
    r.resolveAll engine es = r.resolveAll engine es' := by
  have hframes (es : List Element) :
      r.resolveAll engine (es.map Element.frame) = r.resolveAll engine es := by
    induction es generalizing r with
    | nil => rfl
    | cons e es ih =>
      have hresolve : r.resolve engine e.frame = r.resolve engine e := rfl
      simp only [List.map_cons, resolveAll, hresolve, ih]
  rw [← hframes es, h, hframes es']

theorem retain_of_ids (r : Registry Program) {es es' : List Element}
    (h : es.map (·.id) = es'.map (·.id)) : r.retain es = r.retain es' := by
  have hany (es : List Element) (id : String) :
      es.any (·.id == id) = (es.map (·.id)).any (· == id) := by
    rw [List.any_map]
    rfl
  simp only [retain, hany, h]

/-! ## Registries that reflect a form -/

/-- A registry that holds the hooks of a form and no others. -/
structure Reflects (r : Registry Program) (es : List Element) : Prop where
  keyed : r.Keyed
  holds : ∀ h, h ∈ r.holds ↔ h ∈ hookSources es

theorem reflects_empty : ({} : Registry Program).Reflects [] where
  keyed := List.nodup_nil
  holds _ := Iff.rfl

/-- Each hook of the form has an entry, and there are no more. -/
theorem Reflects.perm {es : List Element} (h : r.Reflects es) (hd : Distinct es) :
    r.holds.Perm (hookSources es) := by
  have hkeys : r.holds.map (·.1) = r.entries.map (·.1) := List.map_map
  have hholds : r.holds.Nodup := List.Nodup.of_map (·.1) (hkeys ▸ h.keyed)
  exact (List.perm_ext_iff_of_nodup hholds (nodup_hookSources hd)).2 h.holds

theorem Reflects.cached {es : List Element} (h : r.Reflects es) (hd : Distinct es) :
    r.cached = (hookSources es).length := by
  rw [← (h.perm hd).length_eq, Registry.cached, Registry.holds, List.length_map]

section

variable {before after : List Element} (h : r.Reflects before)
  (hids : ∀ id ∈ before.map (·.id), id ∈ after.map (·.id))

include h hids

/-- A form with the elements of another keeps what is held of it. -/
theorem Reflects.retain : r.retain after = r := by
  have hkept : r.entries.filter (fun entry => after.any (·.id == entry.1.1)) = r.entries := by
    refine List.filter_eq_self.2 fun entry hentry => ?_
    have hheld : (entry.1, entry.2.source) ∈ r.holds := List.mem_map_of_mem hentry
    have hkey := mem_slots_key.1 (key_of_mem_written ((h.holds _).1 hheld))
    obtain ⟨e, he, hid⟩ := List.mem_map.1 (hids _ hkey)
    exact List.any_eq_true.2 ⟨e, he, beq_iff_eq.2 hid⟩
  rw [Registry.retain]
  exact congrArg (Registry.mk · r.compilations) hkept

/-- **From one form to another.** A registry that reflects a form and resolves the hooks of another reflects
this one. It compiles the renewed hooks and reports those that do not compile. -/
theorem Reflects.resolveAll (hd : Distinct after) (engine : Engine Program) :
    (r.resolveAll engine after).2.2.Reflects after ∧
      (r.resolveAll engine after).2.2.compilations =
        r.compilations + (renewed before after).length ∧
      (r.resolveAll engine after).2.1 = (renewed before after).filterMap engine.hookError? := by
  have hresolved := h.keyed.resolveAll engine hd
  have hunseen : r.unseen (hookSources after) = renewed before after := by
    refine List.filter_congr fun x _ => ?_
    exact decide_eq_decide.2 (not_congr (h.holds x))
  refine ⟨⟨hresolved.keyed, fun x => ?_⟩, ?_, ?_⟩
  · rw [hresolved.holds]
    constructor
    · rintro (⟨hheld, hkey⟩ | hwritten)
      · -- what was held is in a slot of the new form
        have hslot := mem_slots_key.1 (key_of_mem_written ((h.holds x).1 hheld))
        exact absurd (mem_slots_key.2 (hids _ hslot)) hkey
      · exact hwritten
    · exact .inr
  · rw [← hunseen]
    exact hresolved.compilations
  · rw [← hunseen]
    exact hresolved.errors

end

end Registry

end LiveForm

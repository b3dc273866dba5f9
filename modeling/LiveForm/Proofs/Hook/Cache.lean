import LiveForm.Hook.Registry

/-!
# The registry is transparent

A registry saves compilations and nothing else: whoever asks it for hooks gets what compiling anew would
give (`resolve_transparent`). Entries outlive edits of other hooks and other elements, go when their
source is blanked or their element vanishes, and are judged by their text alone. One invariant carries all
of this: every entry holds what its own source compiles to (`Registry.Sound`). It says nothing of keys, so
that no edit of a form can break it.

* **erase**, **retain** — entries go, and the others stay as they were;
* **insert** — the new entry has just been compiled from the source it comes with.

`Engine.hooksOf` is the registry's counterpart without a memory. The rest of the theory speaks of it and
not of registries.
-/

namespace LiveForm

variable {Program : Type}

namespace Engine

/-- What becomes of a source: a script, or nothing that could run. -/
def compiled (engine : Engine Program) (source : String) : Callable Program :=
  match engine.compile HookKind.parameters source with
  | .ok program => .script program
  | .error _ => .noop

/-- A hook of an element, compiled from its present source. -/
def hookOf? (engine : Engine Program) (e : Element) (kind : HookKind) : Option (Callable Program) :=
  (e.hooks.source? kind).map engine.compiled

/-- The hooks of an element, compiled from their present sources. -/
def hooksOf (engine : Engine Program) (e : Element) : ResolvedHooks Program where
  showIf := engine.hookOf? e .showIf
  disableIf := engine.hookOf? e .disableIf
  getOptions := engine.hookOf? e .getOptions
  onValueChanged := engine.hookOf? e .onValueChanged

@[simp] theorem hooksOf_get (engine : Engine Program) (e : Element) (kind : HookKind) :
    (engine.hooksOf e).get kind = engine.hookOf? e kind := by
  cases kind <;> rfl

theorem compileHook_fst (engine : Engine Program) (source : String) :
    (engine.compileHook HookKind.parameters source).1 = engine.compiled source := by
  simp only [compileHook, compiled]
  cases engine.compile HookKind.parameters source with
  | ok program => rfl
  | error e => rfl

end Engine

namespace Registry

variable {engine : Engine Program}

/-! ## The invariant -/

/-- Every entry holds what its own source compiles to. -/
def Sound (engine : Engine Program) (r : Registry Program) : Prop :=
  ∀ entry ∈ r.entries, entry.2.callable = engine.compiled entry.2.source

theorem sound_empty : Sound engine ({} : Registry Program) :=
  fun _ h => absurd h List.not_mem_nil

theorem Sound.erase {r : Registry Program} (hr : r.Sound engine) (key : HookKey) :
    (r.erase key).Sound engine :=
  fun entry h => hr entry (List.mem_filter.1 h).1

theorem Sound.retain {r : Registry Program} (hr : r.Sound engine) (es : List Element) :
    (r.retain es).Sound engine :=
  fun entry h => hr entry (List.mem_filter.1 h).1

theorem Sound.insert {r : Registry Program} (hr : r.Sound engine) (key : HookKey)
    (source : String) : (r.insert key ⟨source, engine.compiled source⟩).Sound engine := by
  intro entry h
  rcases List.mem_cons.1 h with rfl | h
  · rfl
  · exact hr.erase key entry h

/-- **Hit.** An entry that is found for a source holds what this source compiles to. -/
theorem Sound.fresh {r : Registry Program} (hr : r.Sound engine) {key : HookKey} {source : String}
    {entry : CachedHook Program} (h : r.fresh? key source = some entry) :
    entry.callable = engine.compiled source := by
  obtain ⟨hget, hsource⟩ := Option.filter_eq_some_iff.1 h
  obtain ⟨before, after, hentries, -⟩ := List.lookup_eq_some_iff.1 hget
  have hmem : (key, entry) ∈ r.entries := by
    rw [hentries]
    exact List.mem_append_right _ List.mem_cons_self
  rw [hr _ hmem, eq_of_beq hsource]

/-! ## Resolving -/

/-- One hook is resolved as if there were no registry, and the registry stays sound. -/
theorem Sound.resolveKind {r : Registry Program} (hr : r.Sound engine) (e : Element)
    (kind : HookKind) :
    (r.resolveKind engine e kind).1 = engine.hookOf? e kind ∧
      (r.resolveKind engine e kind).2.2.Sound engine := by
  simp only [Registry.resolveKind, Engine.hookOf?]
  cases e.hooks.source? kind with
  | none => exact ⟨rfl, hr.erase _⟩
  | some source =>
    cases hfresh : r.fresh? (e.id, kind) source with
    | some entry =>
      -- hit: the entry answers as it is
      simp only [hfresh, hr.fresh hfresh]
      exact ⟨rfl, hr⟩
    | none =>
      -- miss: the new entry takes the place of the old one
      simp only [hfresh, Engine.compileHook_fst]
      exact ⟨rfl, hr.insert _ source⟩

theorem Sound.resolve {r : Registry Program} (hr : r.Sound engine) (e : Element) :
    (r.resolve engine e).1 = engine.hooksOf e ∧ (r.resolve engine e).2.2.Sound engine := by
  obtain ⟨h₁, hr₁⟩ := hr.resolveKind e .showIf
  obtain ⟨h₂, hr₂⟩ := hr₁.resolveKind e .disableIf
  obtain ⟨h₃, hr₃⟩ := hr₂.resolveKind e .getOptions
  obtain ⟨h₄, hr₄⟩ := hr₃.resolveKind e .onValueChanged
  refine ⟨?_, hr₄⟩
  simp only [Registry.resolve, Engine.hooksOf, h₁, h₂, h₃, h₄]

theorem Sound.resolveAll {r : Registry Program} (hr : r.Sound engine) (es : List Element) :
    (r.resolveAll engine es).1 = es.map engine.hooksOf ∧
      (r.resolveAll engine es).2.2.Sound engine := by
  induction es generalizing r with
  | nil => exact ⟨rfl, hr⟩
  | cons e rest ih =>
    obtain ⟨h, hr'⟩ := hr.resolve e
    obtain ⟨hs, hrest⟩ := ih hr'
    refine ⟨?_, hrest⟩
    simp only [Registry.resolveAll, List.map_cons, h, hs]

/-! ## What resolving reports -/

/-- What is reported of a hook is that it does not compile. -/
theorem resolveKind_reports (engine : Engine Program) (e : Element) (kind : HookKind)
    (r : Registry Program) : ∀ d ∈ (r.resolveKind engine e kind).2.1, d.kind = .compileError := by
  rw [resolveKind]
  split
  · exact nofun
  · split
    · exact nofun
    · intro d hd
      obtain ⟨error, -, rfl⟩ := List.mem_map.1 hd
      rfl

theorem resolve_reports (engine : Engine Program) (e : Element) (r : Registry Program) :
    ∀ d ∈ (r.resolve engine e).2.1, d.kind = .compileError := by
  intro d hd
  simp only [resolve, List.mem_append] at hd
  rcases hd with ((hd | hd) | hd) | hd <;> exact resolveKind_reports engine e _ _ d hd

theorem resolveAll_reports (engine : Engine Program) (r : Registry Program) (es : List Element) :
    ∀ d ∈ (r.resolveAll engine es).2.1, d.kind = .compileError := by
  induction es generalizing r with
  | nil => exact nofun
  | cons e rest ih =>
    intro d hd
    rcases List.mem_append.1 hd with hd | hd
    · exact resolve_reports engine e r d hd
    · exact ih _ d hd

/-! ## Histories -/

/-- What is done with a registry. -/
inductive Use where
  /-- The hooks of an element, in whatever state it is, are asked for. -/
  | resolve (e : Element)
  /-- Only the entries of these elements are kept. -/
  | retain (es : List Element)

/-- A registry after one use of it. -/
def afterUse (engine : Engine Program) (r : Registry Program) : Use → Registry Program
  | .resolve e => (r.resolve engine e).2.2
  | .retain es => r.retain es

/-- A registry that was empty at first, after a history of uses. -/
def afterUses (engine : Engine Program) (history : List Use) : Registry Program :=
  history.foldl (afterUse engine) {}

theorem Sound.afterUse {r : Registry Program} (hr : r.Sound engine) (use : Use) :
    (r.afterUse engine use).Sound engine := by
  cases use with
  | resolve e => exact (hr.resolve e).2
  | retain es => exact hr.retain es

theorem sound_afterUses (engine : Engine Program) (history : List Use) :
    (afterUses engine history).Sound engine := by
  suffices h : ∀ r : Registry Program, r.Sound engine →
      (history.foldl (Registry.afterUse engine) r).Sound engine from h _ sound_empty
  induction history with
  | nil => exact fun _ hr => hr
  | cons use rest ih => exact fun r hr => ih _ (hr.afterUse use)

/-- **The registry is transparent.** After any history, resolving an element gives for each kind of hook
what its present source asks for: nothing where there is no source, a hook that does nothing where the
source does not compile, and else the script it compiles to. Every entry holds what its own source
compiles to. -/
theorem resolve_transparent (engine : Engine Program) (history : List Use) :
    (∀ (e : Element) (kind : HookKind),
      ((afterUses engine history).resolve engine e).1.get kind =
        match e.hooks.source? kind with
        | none => none
        | some source =>
          match engine.compile HookKind.parameters source with
          | .ok program => some (.script program)
          | .error _ => some .noop) ∧
    ∀ entry ∈ (afterUses engine history).entries,
      entry.2.callable =
        match engine.compile HookKind.parameters entry.2.source with
        | .ok program => .script program
        | .error _ => .noop := by
  have hsound := sound_afterUses engine history
  refine ⟨fun e kind => ?_, hsound⟩
  rw [(hsound.resolve e).1, Engine.hooksOf_get, Engine.hookOf?]
  cases e.hooks.source? kind with
  | none => rfl
  | some source =>
    simp only [Option.map_some, Engine.compiled]
    split <;> rfl

end Registry

end LiveForm

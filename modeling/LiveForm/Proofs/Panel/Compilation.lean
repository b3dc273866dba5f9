import LiveForm.Proofs.Evaluation.Containment
import LiveForm.Proofs.Form.Values
import LiveForm.Proofs.Hook.Renewal
import LiveForm.Proofs.Panel.Flags
import LiveForm.Proofs.Panel.Integrity

/-!
# What a session compiles

The registry of a panel reflects the form that is published: it has an entry for each of its hooks, with the
present source, and no others. Every publication starts from that and comes back to it, so what it compiles
are the hooks that are new or have another source than before, and no hook that fails to compile is reported
twice for one source (`compiled_when_needed`). An operation that fails or has nothing to do compiles nothing
(`Operation.Idle`).
-/

namespace LiveForm

variable {Program : Type}

/-- What is reported of hooks that do not compile, among other things. -/
def compileFailures (ds : List Diagnostic) : List Diagnostic :=
  ds.filter (·.kind = .compileError)

/-- Besides hooks that do not compile, an evaluation reports none as such. -/
theorem Evaluation.compileFailures_evaluate (engine : Engine Program) (limit : Nat)
    (r : Registry Program) (s : Snapshot) :
    compileFailures (evaluate engine limit r s).diagnostics =
      compileFailures (r.resolveAll engine s.elements).2.1 := by
  have hfaults : compileFailures
      (run engine (r.resolveAll engine s.elements).1 limit s.elements).faults = [] := by
    refine List.filter_eq_nil_iff.2 fun d hd => ?_
    rw [run_faults_kind _ _ hd]
    exact nofun
  have hend (converged : Bool) :
      compileFailures (if converged then [] else [.convergenceExceeded (max limit 1)]) = [] := by
    cases converged <;> rfl
  rw [evaluate_reported, compileFailures, List.filter_append, List.filter_append]
  show compileFailures _ ++ compileFailures _ ++ compileFailures _ = _
  rw [hfaults, hend, List.append_nil, List.append_nil]

theorem compileFailures_hookErrors (engine : Engine Program) (hs : List HookSource) :
    compileFailures (hs.filterMap engine.hookError?) = hs.filterMap engine.hookError? := by
  refine List.filter_eq_self.2 fun d hd => ?_
  obtain ⟨h, -, herror⟩ := List.mem_filterMap.1 hd
  obtain ⟨error, -, rfl⟩ := Option.map_eq_some_iff.1 herror
  rfl

/-! ## Operations without an edit -/

/-- An operation that names none of these ids, though it has to name one. -/
def Operation.Idle (ids : List String) : Operation → Prop
  | .setValue id _ => id ∉ ids
  | .replaceElement e => e.id ∉ ids
  | .applyOutcome changes => ∀ c ∈ changes, c.id ∉ ids
  | _ => False

namespace Panel

variable {p : Panel Program}

theorem knownValues_eq_nil {changes : List ValueAssignment} :
    (p.knownValues changes).members = [] ↔ ∀ c ∈ changes, c.id ∉ p.published.ids := by
  rw [knownValues, Values.ofList, Json.Members.ofList_eq_nil, List.map_eq_nil_iff, List.filter_eq_nil_iff]
  simp only [Snapshot.contains_iff_mem_ids]

theorem edit?_eq_none {op : Operation} : p.edit? op = none ↔ op.Idle p.published.ids := by
  cases op with
  | setValue id value => exact Snapshot.setValue?_eq_none
  | replaceElement e => exact Snapshot.replace?_eq_none
  | applyOutcome changes =>
    rw [Operation.Idle, ← knownValues_eq_nil, edit?]
    simp
  | _ => simp [edit?, Operation.Idle]

/-! ## Publishing -/

/-- A panel whose registry reflects what it publishes. -/
def Compiled (p : Panel Program) : Prop := p.registry.Reflects p.published.elements

/-- **Publishing compiles what is renewed.** -/
theorem publish_compiled (hsound : p.registry.Sound p.engine) {before : List Element}
    (hr : p.registry.Reflects before) {next : Snapshot}
    (hids : ∀ id ∈ before.map (·.id), id ∈ next.ids) :
    let u := p.publish next
    u.panel.Compiled ∧
      u.panel.registry.compilations =
        p.registry.compilations + (renewed before u.panel.published.elements).length ∧
      compileFailures u.diagnostics =
        (renewed before u.panel.published.elements).filterMap p.engine.hookError? := by
  intro u
  have hsources : hookSources u.panel.published.elements = hookSources next.elements := by
    refine hookSources_of_frame ?_
    rw [publish_published hsound, Evaluation.settled_frame]
  obtain ⟨hreflects, hcompilations, herrors⟩ := hr.resolveAll hids next.distinct p.engine
  have hregistry : u.panel.registry = (p.registry.resolveAll p.engine next.elements).2.2 := by
    show ((p.registry.retain next.elements).resolveAll p.engine next.elements).2.2 = _
    rw [hr.retain hids]
  have hrenewed : renewed before u.panel.published.elements = renewed before next.elements := by
    rw [renewed, renewed, hsources]
  refine ⟨⟨?_, fun h => ?_⟩, ?_, ?_⟩
  · rw [hregistry]
    exact hreflects.keyed
  · rw [hregistry, hsources]
    exact hreflects.holds h
  · rw [hregistry, hrenewed, hcompilations]
  · rw [hrenewed, ← compileFailures_hookErrors, ← herrors]
    show compileFailures (Evaluation.evaluate _ _ (p.registry.retain next.elements) next).diagnostics = _
    rw [hr.retain hids, Evaluation.compileFailures_evaluate]

/-! ## Sessions -/

theorem ofSnapshot_compiled (engine : Engine Program) (limit : Nat) (title : Option String)
    (s : Snapshot) :
    let u := ofSnapshot engine limit title s
    u.panel.Compiled ∧
      u.panel.registry.compilations = (hookSources u.panel.published.elements).length ∧
      compileFailures u.diagnostics =
        (hookSources u.panel.published.elements).filterMap engine.hookError? := by
  intro u
  obtain ⟨hcompiled, hcompilations, herrors⟩ :=
    publish_compiled (p := { engine, limit, title, published := s }) Registry.sound_empty
      Registry.reflects_empty fun id hid => absurd hid List.not_mem_nil
  rw [renewed_nil] at hcompilations herrors
  exact ⟨hcompiled, hcompilations.trans (Nat.zero_add _), herrors⟩

/-- **Any session** keeps the registry in step. -/
theorem Compiled.after (h : p.Compiled) (hp : p.Valid) (ops : List Operation) :
    (p.after ops).Compiled := by
  refine (after_induction (P := Compiled) (fun q next hq hids hcompiled => ?_) hp h ops).1
  exact (publish_compiled hq.sound hcompiled (by rw [hids]; exact fun _ => id)).1

/-- **Hooks are compiled when they have to be.** A new panel compiles every hook of its form and reports those
that do not compile, each once. After any session its registry has just one entry for every hook of the
published form, with the source of this hook. An operation that is idle leaves the panel as it is and reports
nothing. Every other one succeeds, compiles the hooks that are new in what it publishes or have another source
than before, and reports those of them that do not compile, each once, and no others. -/
theorem compiled_when_needed (engine : Engine Program) (limit : Nat) (title : Option String)
    (s : Snapshot) :
    let start := ofSnapshot engine limit title s
    start.panel.registry.compilations = (hookSources start.panel.published.elements).length ∧
      compileFailures start.diagnostics =
        (hookSources start.panel.published.elements).filterMap engine.hookError? ∧
      ∀ ops : List Operation,
        let p := start.panel.after ops
        p.registry.holds.Perm (hookSources p.published.elements) ∧
          p.registry.cached = (hookSources p.published.elements).length ∧
          ∀ op : Operation,
            (op.Idle p.published.ids →
              p.after [op] = p ∧ ∀ v, p.perform op = .ok v → v = { panel := p }) ∧
            (¬op.Idle p.published.ids → ∃ v, p.perform op = .ok v ∧
              let fresh := renewed p.published.elements v.panel.published.elements
              v.panel.registry.compilations = p.registry.compilations + fresh.length ∧
                compileFailures v.diagnostics = fresh.filterMap engine.hookError?) := by
  intro start
  have hvalid := ofSnapshot_valid engine limit title s
  obtain ⟨hstart, hcompilations, herrors⟩ := ofSnapshot_compiled engine limit title s
  refine ⟨hcompilations, herrors, fun ops => ?_⟩
  intro p
  have hp : p.Valid := after_valid hvalid ops
  have hcompiled : p.Compiled := hstart.after hvalid ops
  have hengine : p.engine = engine := after_engine hvalid ops
  refine ⟨hcompiled.perm p.published.distinct, hcompiled.cached p.published.distinct, fun op =>
    ⟨fun hidle => ?_, fun hidle => ?_⟩⟩
  · have hedit := edit?_eq_none.2 hidle
    refine ⟨by rw [after_one, hedit], fun v hv => ?_⟩
    have hperform := perform_edit? p op
    rw [hedit] at hperform
    rcases hperform with hsame | ⟨error, hfails⟩
    · exact Except.ok.inj (hv.symm.trans hsame)
    · rw [hfails] at hv
      cases hv
  · obtain ⟨next, hnext⟩ := Option.ne_none_iff_exists'.1 (mt edit?_eq_none.1 hidle)
    have hperform := perform_edit? p op
    rw [hnext] at hperform
    have hids := edit?_ids hnext
    obtain ⟨-, hmore, hreported⟩ := publish_compiled hp.sound hcompiled
      (by rw [hids]; exact fun _ => id)
    rw [hengine] at hreported
    exact ⟨_, hperform, hmore, hreported⟩

/-! ## A broken hook that stays -/

open Script

/-- The form with two broken hooks, of which one is made to work. -/
def repaired : Element :=
  { Evaluation.failing with hooks := { showIf := some "false", onValueChanged := some "(" } }

/-- The hook that stays broken is reported when the panel is new and not again. -/
theorem compiled_when_needed_repaired :
    let s : Snapshot := ⟨[Evaluation.failing], ∅, by decide⟩
    let start := ofSnapshot (Sandbox.engine {}) 8 none s
    start.panel.registry.compilations = 2 ∧
      (∃ error, compileFailures start.diagnostics =
        [Diagnostic.hookCompileError "a" .onValueChanged error]) ∧
      ∃ v, start.panel.perform (.replaceElement repaired) = .ok v ∧
        v.panel.registry.compilations = 3 ∧ compileFailures v.diagnostics = [] ∧
        v.panel.registry.cached = 2 := by
  intro s
  have hvalid := ofSnapshot_valid (Sandbox.engine {}) 8 none s
  have hkeeps : (ofSnapshot (Sandbox.engine {}) 8 none s).panel.Keeps [Evaluation.failing] ∅ :=
    publish_keeps Registry.sound_empty rfl rfl
  obtain ⟨hcompilations, herrors, hsession⟩ := compiled_when_needed (Sandbox.engine {}) 8 none s
  dsimp only
  generalize ofSnapshot (Sandbox.engine {}) 8 none s = start at hvalid hkeeps hcompilations herrors hsession
  -- the hooks before and after are those of the elements as they are given
  have hbefore : hookSources start.panel.published.elements =
      [(("a", .showIf), "boom()"), (("a", .onValueChanged), "(")] :=
    hookSources_of_frame hkeeps.frames
  have hnamed : ¬(Operation.replaceElement repaired).Idle start.panel.published.ids := by
    rw [hkeeps.ids]
    exact fun hidle => hidle List.mem_cons_self
  obtain ⟨v, hv, hmore, hreported⟩ := ((hsession []).2.2 (.replaceElement repaired)).2 hnamed
  have hpanel : start.panel.after [.replaceElement repaired] = v.panel := after_of_perform hv
  have hafter : hookSources v.panel.published.elements =
      [(("a", .showIf), "false"), (("a", .onValueChanged), "(")] := by
    rw [← hpanel]
    exact hookSources_of_frame (hkeeps.after_one hvalid (.replaceElement repaired)).frames
  obtain ⟨-, hcached, -⟩ := hsession [.replaceElement repaired]
  rw [hpanel, hafter] at hcached
  have hfresh : renewed start.panel.published.elements v.panel.published.elements =
      [(("a", .showIf), "false")] := by
    rw [renewed, hbefore, hafter]
    decide
  rw [hbefore] at hcompilations herrors
  rw [after, hcompilations, hfresh] at hmore
  obtain ⟨error, herror⟩ := Evaluation.compile_unclosed
  have hboom : (Sandbox.engine {}).hookError? (("a", .showIf), "boom()") = none := by
    simp only [Engine.hookError?, Engine.compileHook, Sandbox.engine_compile, Evaluation.compile_boom,
      Option.map_none]
  have hunclosed : (Sandbox.engine {}).hookError? (("a", .onValueChanged), "(") =
      some (.hookCompileError "a" .onValueChanged error) := by
    simp only [Engine.hookError?, Engine.compileHook, Sandbox.engine_compile, herror, Option.map_some]
  have hfalse : (Sandbox.engine {}).hookError? (("a", .showIf), "false") = none := by
    simp only [Engine.hookError?, Engine.compileHook, Sandbox.engine_compile, compile_hidden,
      Option.map_none]
  rw [List.filterMap_cons_none hboom, List.filterMap_cons_some hunclosed, List.filterMap_nil] at herrors
  rw [after, hfresh, List.filterMap_cons_none hfalse, List.filterMap_nil] at hreported
  exact ⟨hcompilations, ⟨error, herrors⟩, v, hv, hmore, hreported, hcached⟩

end Panel

end LiveForm

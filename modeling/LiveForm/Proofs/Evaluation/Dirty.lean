import LiveForm.Proofs.Evaluation.Calls
import LiveForm.Proofs.Evaluation.Log
import LiveForm.Proofs.Script.Assignment
import LiveForm.Proofs.Script.Literal
import Mathlib.Logic.Function.Iterate

/-!
# What makes a pass dirty

A pass counts as dirty when a write in it has changed a value, judged at the moment of the write. That is what
its log has entries for (`pass_dirty`): a value that is another one at the end has been changed, and one that
has been changed just once is another one at the end. But a value may be changed and changed back, by two hooks
that do not agree about it, and then a pass is dirty that leaves every value as it was (`dirty_unchanged`).

So the passes go on until there is one without an entry, and what is reported when there is no end is that each
of them had one.
-/

namespace LiveForm

variable {Program : Type}

/-! ## Changes of one element -/

namespace Element

/-- The changes of an element in a log follow each other: each has before it the value that the ones in front
of it have left. -/
def Chains (e : Element) : List ValueChange → Prop
  | [] => True
  | c :: log => (c.id = e.id → c.before = e.value) ∧ (e.replay c).Chains log

theorem chains_append {e : Element} {log more : List ValueChange} :
    e.Chains (log ++ more) ↔ e.Chains log ∧ (e.replayed log).Chains more := by
  induction log generalizing e with
  | nil => exact (iff_of_eq (true_and _)).symm
  | cons c log ih => rw [List.cons_append, Chains, ih, Chains, replayed_cons, and_assoc]

/-- Whether the changes follow each other is a matter of id and value. -/
theorem Chains.congr {e e' : Element} {log : List ValueChange} (h : e.Chains log) (hid : e'.id = e.id)
    (hvalue : e'.value = e.value) : e'.Chains log := by
  induction log generalizing e e' with
  | nil => trivial
  | cons c log ih =>
    obtain ⟨hc, hlog⟩ := h
    refine ⟨fun h => (hc (h.trans hid)).trans hvalue.symm, ih hlog ?_ ?_⟩
    · rw [replay_id, replay_id, hid]
    · by_cases h : c.id = e.id
      · rw [replay, replay, if_pos h, if_pos (h.trans hid.symm)]
      · rw [replay, replay, if_neg h, if_neg fun h' => h (h'.trans hid), hvalue]

/-- **A single change** is what becomes of an element. -/
theorem Chains.of_count_eq_one {e : Element} {log : List ValueChange} (h : e.Chains log)
    (hone : (log.map (·.id)).count e.id = 1) :
    ∃ c ∈ log, c.before = e.value ∧ c.after = (e.replayed log).value := by
  induction log with
  | nil => cases hone
  | cons c log ih =>
    obtain ⟨hc, hlog⟩ := h
    rw [List.map_cons, List.count_cons] at hone
    by_cases hid : c.id = e.id
    · -- it is this one, and the others are of other elements
      have hnone : e.id ∉ log.map (·.id) := by
        rw [← List.count_eq_zero]
        simpa [hid] using hone
      have hreplay : (e.replay c).id ∉ log.map (·.id) := by rwa [replay_id]
      refine ⟨c, List.mem_cons_self, hc hid, ?_⟩
      rw [replayed_cons, replayed_of_not_mem hreplay, replay, if_pos hid]
    · have hkept : e.replay c = e := if_neg hid
      rw [hkept] at hlog
      obtain ⟨d, hd, hbefore, hafter⟩ := ih hlog (by simpa [hid] using hone)
      refine ⟨d, List.mem_cons_of_mem _ hd, hbefore, ?_⟩
      rw [replayed_cons, hkept, hafter]

end Element

/-! ## Logs of reactions -/

namespace Reaction

/-- In a log the changes of every element follow each other. -/
def Chained (r : Reaction) (log : List ValueChange) : Prop := ∀ e ∈ r.elements, e.Chains log

theorem Chained.append {r r' : Reaction} {log more : List ValueChange} (h : r.Chained log)
    (hlogs : r.Logs log r') (h' : r'.Chained more) : r.Chained (log ++ more) := by
  intro e he
  obtain ⟨e', he', hid, hvalue⟩ := hlogs.toAccounts.exists_replayed he
  refine Element.chains_append.2 ⟨h e he, (h' e' he').congr ?_ hvalue.symm⟩
  rw [Element.replayed_id, hid]

theorem logOf_chained {r : Reaction} (hd : Distinct r.elements) (w : ValueWrite) :
    r.Chained (r.logOf w) := by
  intro e he
  rw [logOf]
  cases hplace : r.elements[w.place]? with
  | none => trivial
  | some x =>
    rw [Option.bind_some, Diff.valueChange?]
    split
    · trivial
    · refine ⟨fun hid => ?_, trivial⟩
      obtain rfl : x = e := hd.eq_of_id (List.mem_of_getElem? hplace) he hid
      rfl

theorem logWrites_chained (writes : List ValueWrite) {r : Reaction} (hd : Distinct r.elements) :
    r.Chained (r.logWrites writes) := by
  induction writes generalizing r with
  | nil => exact fun _ _ => trivial
  | cons w writes ih =>
    have hw := write_logs hd w
    exact (logOf_chained hd w).append hw (ih (hw.distinct hd))

/-- **The log of a pass** tells of every change what was there before it. -/
theorem logFrom_chained (engine : Engine Program) (place : Nat) (hooks : List (ResolvedHooks Program))
    {r : Reaction} (hd : Distinct r.elements) : r.Chained (r.logFrom engine place hooks) := by
  induction hooks generalizing place r with
  | nil => exact fun _ _ => trivial
  | cons own rest ih =>
    rw [logFrom]
    cases own.onValueChanged with
    | none => exact ih _ hd
    | some hook =>
      have hcall := callAt_logs engine place hook hd
      exact (logWrites_chained _ hd).append hcall (ih _ (hcall.distinct hd))

end Reaction

/-! ## Passes -/

namespace Evaluation

variable {engine : Engine Program} {hooks : List (ResolvedHooks Program)}

theorem react_logs (engine : Engine Program) (hooks : List (ResolvedHooks Program)) {es : List Element}
    (hd : Distinct es) (changed : List String) :
    (Reaction.start es changed).Logs ((Reaction.start es changed).logFrom engine 0 hooks)
      (react engine hooks es changed) :=
  Reaction.callFrom_logs engine 0 hooks hd

/-- Some element has another value afterwards. -/
def Differs (es es' : List Element) : Prop :=
  ∃ (place : Nat) (e e' : Element),
    es[place]? = some e ∧ es'[place]? = some e' ∧ e.value.same e'.value = false

theorem Differs.irrefl (es : List Element) : ¬Differs es es := by
  rintro ⟨place, e, e', he, he', hvalue⟩
  obtain rfl := Option.some.inj (he.symm.trans he')
  rw [Json.same_refl] at hvalue
  cases hvalue

/-- **What makes a pass dirty** is a change at some moment of it. -/
theorem react_dirty_iff {es : List Element} (hd : Distinct es) (changed : List String) :
    (react engine hooks es changed).dirty = true ↔
      (Reaction.start es changed).logFrom engine 0 hooks ≠ [] := by
  rw [(react_logs engine hooks hd changed).dirty, ← List.isEmpty_eq_false_iff]
  show (false || !_) = true ↔ _
  rw [Bool.false_or, Bool.not_eq_true']

/-- What becomes of the element at a place, by the log of the pass. -/
theorem react_replayed {es : List Element} (hd : Distinct es) (changed : List String) {place : Nat}
    {e e' : Element} (he : es[place]? = some e)
    (he' : (react engine hooks es changed).elements[place]? = some e') :
    e'.value = (e.replayed ((Reaction.start es changed).logFrom engine 0 hooks)).value := by
  have hplace := congrArg (·[place]?) (react_logs engine hooks hd changed).values
  have hes : (Reaction.start es changed).elements[place]? = some e := he
  simp only [List.getElem?_map, hes, he', Option.map_some] at hplace
  exact congrArg (·.value) (Option.some.inj hplace)

/-- A pass that is not dirty has left every value as it was. -/
theorem react_dirty_of_differs {es : List Element} (changed : List String)
    (h : Differs es (react engine hooks es changed).elements) :
    (react engine hooks es changed).dirty = true := by
  by_contra hclean
  rw [(react_tracks engine hooks es changed).clean (Bool.eq_false_iff.2 hclean)] at h
  exact Differs.irrefl es h

/-- Where no element is changed twice, a change is there to be seen at the end. -/
theorem react_differs {es : List Element} (hd : Distinct es) (changed : List String)
    (honce : (((Reaction.start es changed).logFrom engine 0 hooks).map (·.id)).Nodup)
    (h : (Reaction.start es changed).logFrom engine 0 hooks ≠ []) :
    Differs es (react engine hooks es changed).elements := by
  have hlogs := react_logs engine hooks hd changed
  obtain ⟨c, hc⟩ := List.exists_mem_of_ne_nil _ h
  obtain ⟨e, he, hid⟩ := List.mem_map.1 (hlogs.known c hc)
  obtain ⟨place, hplace⟩ := List.getElem?_of_mem he
  have hlt : place < (react engine hooks es changed).elements.length := by
    rw [(react_tracks engine hooks es changed).length]
    exact (List.getElem?_eq_some_iff.1 hplace).1
  refine ⟨place, e, _, hplace, List.getElem?_eq_getElem hlt, ?_⟩
  have hone := List.count_eq_one_of_mem honce (List.mem_map_of_mem hc)
  rw [← hid] at hone
  have hchains := Reaction.logFrom_chained engine 0 hooks (r := Reaction.start es changed) hd e he
  obtain ⟨d, hdmem, hbefore, hafter⟩ := hchains.of_count_eq_one hone
  rw [react_replayed hd changed hplace (List.getElem?_eq_getElem hlt), ← hafter, ← hbefore]
  exact hlogs.differs d hdmem

/-- A run of passes converges just if one of them, so many as it may run, converges. -/
theorem iterate_converged_iff (left : Nat) {p : Progress} (hp : p.converged = false) :
    (iterate engine hooks left p).converged = true ↔
      ∃ k < left, (pass engine hooks ((pass engine hooks)^[k] p)).converged = true := by
  induction left generalizing p with
  | zero => simp [iterate, hp]
  | succ left ih =>
    rw [iterate_succ, Nat.exists_lt_succ_left]
    cases hc : (pass engine hooks p).converged with
    | true => simp [hc]
    | false => simpa [hc] using ih hc

theorem iterate_pass_frame (k : Nat) (p : Progress) :
    ((pass engine hooks)^[k] p).elements.map Element.frame = p.elements.map Element.frame := by
  induction k generalizing p with
  | zero => rfl
  | succ k ih => rw [Function.iterate_succ_apply, ih, pass_frame]

/-- That there was no end is reported just if the evaluation has not converged. -/
theorem evaluate_reports (engine : Engine Program) (limit : Nat) (r : Registry Program) (s : Snapshot) :
    (∃ d ∈ (evaluate engine limit r s).diagnostics, d.kind = .convergenceExceeded) ↔
      (evaluate engine limit r s).converged = false := by
  rw [evaluate_reported]
  show _ ↔ (run engine (r.resolveAll engine s.elements).1 limit s.elements).converged = false
  constructor
  · rintro ⟨d, hd, hkind⟩
    by_contra hconverged
    rw [if_pos (Bool.eq_true_of_not_eq_false hconverged), List.append_nil] at hd
    -- neither what does not compile nor what fails is reported like this
    rcases List.mem_append.1 hd with hd | hd
    · rw [Registry.resolveAll_reports engine r s.elements d hd] at hkind
      cases hkind
    · rw [run_faults_kind _ _ hd] at hkind
      cases hkind
  · intro hconverged
    rw [hconverged]
    exact ⟨_, List.mem_append_right _ (List.mem_singleton_self _), rfl⟩

/-- **A pass is dirty** just if a write in it has changed a value: one that is not the same as the value in
place at that moment. So it is if some element has another value afterwards; and if no element has been changed
more than once, it is only then. Passes go on until there is one in which no write has changed a value. That
there was no end is reported just if in each of the passes, so many as the limit allows, a write has. -/
theorem pass_dirty (engine : Engine Program) :
    (∀ (hooks : List (ResolvedHooks Program)) (s : Snapshot) (changed : List String),
      let es := s.elements
      let r := react engine hooks es changed
      let log := (Reaction.start es changed).logFrom engine 0 hooks
      (r.dirty = true ↔ log ≠ []) ∧
      (∀ c ∈ log, c.id ∈ es.map (·.id) ∧ c.before.same c.after = false) ∧
      (∀ (place : Nat) (e e' : Element), es[place]? = some e → r.elements[place]? = some e' →
        e.Chains log ∧ e'.value = (e.replayed log).value) ∧
      (Differs es r.elements → r.dirty = true) ∧
      ((log.map (·.id)).Nodup → (r.dirty = true ↔ Differs es r.elements))) ∧
    ∀ (limit : Nat) (registry : Registry Program) (s : Snapshot),
      let hooks := (registry.resolveAll engine s.elements).1
      let before (k : Nat) : Progress := (pass engine hooks)^[k] { elements := s.elements }
      let o := evaluate engine limit registry s
      (∀ k, (pass engine hooks (before k)).converged = true ↔ passLog engine hooks (before k) = []) ∧
      (o.converged = true ↔ ∃ k < max limit 1, passLog engine hooks (before k) = []) ∧
      ((∃ d ∈ o.diagnostics, d.kind = .convergenceExceeded) ↔
        ∀ k < max limit 1, passLog engine hooks (before k) ≠ []) := by
  constructor
  · intro hooks s changed es r log
    have hlogs := react_logs engine hooks s.distinct changed
    have hdirty : r.dirty = true ↔ log ≠ [] := react_dirty_iff s.distinct changed
    exact ⟨hdirty, fun c hc => ⟨hlogs.known c hc, hlogs.differs c hc⟩,
      fun place e e' he he' => ⟨Reaction.logFrom_chained engine 0 hooks (r := Reaction.start es changed)
        s.distinct e (List.mem_of_getElem? he), react_replayed s.distinct changed he he'⟩,
      react_dirty_of_differs changed,
      fun hnodup => ⟨fun h => react_differs s.distinct changed hnodup (hdirty.1 h),
        react_dirty_of_differs changed⟩⟩
  · intro limit registry s hooks before o
    have hpass (k : Nat) :
        (pass engine hooks (before k)).converged = true ↔ passLog engine hooks (before k) = [] := by
      have hbefore : Distinct (before k).elements :=
        s.distinct.of_frame (iterate_pass_frame k { elements := s.elements })
      rw [(pass_accounts engine hooks hbefore).2, List.isEmpty_iff]
    have hconverged : o.converged = true ↔ ∃ k < max limit 1, passLog engine hooks (before k) = [] := by
      simp only [← hpass]
      exact (Bool.eq_iff_iff.1 (run_converged engine hooks limit s.elements)).trans
        (iterate_converged_iff (max limit 1) rfl)
    refine ⟨hpass, hconverged, ?_⟩
    rw [evaluate_reports, ← Bool.not_eq_true, hconverged]
    simp only [not_exists, not_and, ne_eq]

/-! ## Hooks that do not agree -/

section

open Script

/-- A number that a hook of another element raises. -/
def raised : Element := { id := "c", type := .number, value := .int 0 }

/-- The same number, with a hook of its own that sets it to zero. -/
def lowered : Element := { raised with hooks := { onValueChanged := some "0" } }

/-- An element whose hook assigns to the value of the next one. -/
def raising : Element :=
  { id := "a", type := .text, hooks := { onValueChanged := some "elements[1].value = 1" } }

def raisingHooks : ResolvedHooks Script.Program :=
  { onValueChanged := some (.script (assigning [.assignItem 1 1 "value" (.int 1)])) }

def loweringHooks : ResolvedHooks Script.Program :=
  { onValueChanged := some (.script (Sandbox.literalProgram (.int 0) ⟨1, 1⟩)) }

theorem hooksOf_raising : (Sandbox.engine {}).hooksOf raising = raisingHooks := by
  have hcompile : Sandbox.compile {} HookKind.parameters "elements[1].value = 1" =
      .ok (assigning [.assignItem 1 1 "value" (.int 1)]) := by
    cbv
  rw [raisingHooks, ← Sandbox.compiled_of_compile hcompile]
  rfl

theorem hooksOf_lowered : (Sandbox.engine {}).hooksOf lowered = loweringHooks := by
  have hcompile : Sandbox.compile {} HookKind.parameters "0" =
      .ok (Sandbox.literalProgram (.int 0) ⟨1, 1⟩) := by
    cbv
  rw [loweringHooks, ← Sandbox.compiled_of_compile hcompile]
  rfl

/-- A hook raises the number: this is a change, and is one at the end. The next pass is not dirty, and it is not
reported that there was no end. -/
theorem pass_dirty_raising :
    let s : Snapshot := ⟨[raising, raised], ∅, by decide⟩
    let es := s.elements
    let hooks := es.map (Sandbox.engine {}).hooksOf
    let o := evaluate (Sandbox.engine {}) 10 {} s
    (Reaction.start es []).logFrom (Sandbox.engine {}) 0 hooks = [⟨"c", .int 0, .int 1⟩] ∧
      (react (Sandbox.engine {}) hooks es []).dirty = true ∧
      Differs es (react (Sandbox.engine {}) hooks es []).elements ∧
      o.converged = true ∧ ¬∃ d ∈ o.diagnostics, d.kind = .convergenceExceeded := by
  intro s es hooks o
  have hhooks : hooks = [raisingHooks, {}] := by
    rw [← hooksOf_raising]
    rfl
  have hlog : (Reaction.start es []).logFrom (Sandbox.engine {}) 0 hooks = [⟨"c", .int 0, .int 1⟩] := by
    rw [hhooks]
    decide +kernel
  have hrun : (run (Sandbox.engine {}) hooks 10 es).converged = true := by
    rw [hhooks]
    decide +kernel
  have hconverged : o.converged = true := (evaluate_converged Registry.sound_empty).trans hrun
  obtain ⟨hpass, hevaluate⟩ := pass_dirty (Sandbox.engine {})
  obtain ⟨hdirty, -, -, -, hdiffers⟩ := hpass hooks s []
  obtain ⟨-, hends, hreports⟩ := hevaluate 10 {} s
  have hwritten : (react (Sandbox.engine {}) hooks es []).dirty = true := by
    rw [hdirty, hlog]
    exact List.cons_ne_nil _ _
  have honce : (((Reaction.start es []).logFrom (Sandbox.engine {}) 0 hooks).map (·.id)).Nodup := by
    rw [hlog]
    decide
  obtain ⟨k, hk, hquiet⟩ := hends.1 hconverged
  exact ⟨hlog, hwritten, (hdiffers honce).1 hwritten, hconverged, fun h => hreports.1 h k hk hquiet⟩

/-- **A pass may be dirty and change nothing.** A hook raises the number, and its own hook puts it back: every
pass leaves all the elements as they were, and there is no end. -/
theorem dirty_unchanged :
    let s : Snapshot := ⟨[raising, lowered], ∅, by decide⟩
    let es := s.elements
    let hooks := es.map (Sandbox.engine {}).hooksOf
    let o := evaluate (Sandbox.engine {}) 10 {} s
    (react (Sandbox.engine {}) hooks es []).elements = es ∧
      ¬Differs es (react (Sandbox.engine {}) hooks es []).elements ∧
      (react (Sandbox.engine {}) hooks es []).dirty = true ∧
      o.snapshot.elements = es ∧ o.converged = false ∧
      ∃ d ∈ o.diagnostics, d.kind = .convergenceExceeded := by
  intro s es hooks o
  have hhooks : hooks = [raisingHooks, loweringHooks] := by
    rw [← hooksOf_raising, ← hooksOf_lowered]
    rfl
  have hreact : (react (Sandbox.engine {}) hooks es []).elements = es ∧
      (react (Sandbox.engine {}) hooks es []).dirty = true := by
    rw [hhooks]
    decide +kernel
  have hrun : (run (Sandbox.engine {}) hooks 10 es).elements = es ∧
      (run (Sandbox.engine {}) hooks 10 es).converged = false := by
    rw [hhooks]
    decide +kernel
  have helements : o.snapshot.elements = es := by
    rw [evaluate_elements Registry.sound_empty]
    exact hrun.1
  have hconverged : o.converged = false := (evaluate_converged Registry.sound_empty).trans hrun.2
  refine ⟨hreact.1, ?_, hreact.2, helements, hconverged,
    (evaluate_reports _ _ _ _).2 hconverged⟩
  rw [hreact.1]
  exact Differs.irrefl es

end

end Evaluation

end LiveForm

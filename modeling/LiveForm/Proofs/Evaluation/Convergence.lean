import LiveForm.Proofs.Evaluation.Cascade
import LiveForm.Proofs.Evaluation.FixedPoint
import LiveForm.Proofs.Script.Literal

/-!
# Cascades converge

Each pass over a cascade makes the elements of one more rank stable (`pass_rank`), and a pass over stable
elements writes nothing and is the last. So an evaluation needs one pass more than the greatest rank. If the
elements are declared after those they are computed from, one pass makes all of them stable at once
(`pass_ordered`), whatever the ranks, and two passes are enough.
-/

namespace LiveForm

variable {Program : Type}

/-! ## Deriving changes no value -/

theorem valueIn_withoutDerived (es : List Element) :
    valueIn (es.map Element.withoutDerived) = valueIn es := by
  funext id
  rw [valueIn, valueIn, List.find?_map]
  show ((es.find? (·.id == id)).map _ |>.map _).getD _ = _
  rw [Option.map_map]
  rfl

namespace Cascade

variable {engine : Engine Program} {es₀ : List Element} {c : Cascade engine es₀}

theorem stableOn_withoutDerived {es : List Element} {Q : String → Prop} :
    c.StableOn Q (es.map Element.withoutDerived) ↔ c.StableOn Q es := by
  simp only [StableOn, List.forall_mem_map, Stable, valueIn_withoutDerived]
  rfl

/-! ## One pass -/

/-- A pass over a state of the cascade reacts to a state that has the same values. -/
theorem pass_reacts {p : Evaluation.Progress} (hp : c.State p.elements) :
    ∃ es, c.State es ∧ (∀ Q, c.StableOn Q es ↔ c.StableOn Q p.elements) ∧
      (Evaluation.pass engine (es₀.map engine.hooksOf) p).elements =
        (Evaluation.react engine (es.map engine.hooksOf) es p.changed).elements ∧
      (Evaluation.pass engine (es₀.map engine.hooksOf) p).converged =
        !(Evaluation.react engine (es.map engine.hooksOf) es p.changed).dirty := by
  have hsame := Evaluation.derive_withoutDerived engine (es₀.map engine.hooksOf) p.elements
  have hes : c.State (Evaluation.derive engine (es₀.map engine.hooksOf) p.elements).1 :=
    ⟨(Evaluation.derive_frame engine _ p.elements).trans hp.frame,
      c.derived p.elements hp.frame hp.occurs⟩
  refine ⟨_, hes, fun Q => ?_, ?_, ?_⟩
  · rw [← stableOn_withoutDerived, hsame, stableOn_withoutDerived]
  · rw [Engine.map_hooksOf_eq engine hes.frame]
    rfl
  · rw [Engine.map_hooksOf_eq engine hes.frame]
    rfl

/-- The ids in front of a place and the one at this place. -/
theorem mem_take_succ {place : Nat} {e : Element} (he : es₀[place]? = some e) {id : String} :
    id ∈ (es₀.take (place + 1)).map (·.id) ↔ id ∈ (es₀.take place).map (·.id) ∨ id = e.id := by
  simp [List.take_add_one, he]

/-- In front of the end there are all ids. -/
theorem mem_take_length {es es' : List Element} (hes : c.State es) (hes' : c.State es')
    {e : Element} (he : e ∈ es') : e.id ∈ (es₀.take es.length).map (·.id) := by
  have hlength : es.length = es₀.length := by
    simpa only [List.length_map] using congrArg List.length hes.frame
  obtain ⟨e₀, he₀, hframe⟩ := mem_frame hes' he
  rw [hlength, List.take_length, ← Element.id_eq_of_frame hframe]
  exact List.mem_map_of_mem he₀

section

variable (hd : Distinct es₀) {p : Evaluation.Progress} (hp : c.State p.elements)

include hd hp

theorem pass_state : c.State (Evaluation.pass engine (es₀.map engine.hooksOf) p).elements := by
  obtain ⟨es, hes, -, helements, -⟩ := pass_reacts hp
  rw [helements]
  exact react_state hd hes p.changed

/-- **The last pass** is the one that finds every element stable. -/
theorem pass_converged_iff :
    (Evaluation.pass engine (es₀.map engine.hooksOf) p).converged = true ↔
      c.AllStable p.elements := by
  obtain ⟨es, hes, hstable, -, hconverged⟩ := pass_reacts hp
  rw [hconverged, Bool.not_eq_true', AllStable, ← hstable]
  exact ⟨stable_of_clean hd hes p.changed, clean_of_stable hd hes p.changed⟩

/-- It leaves every element stable. -/
theorem allStable_of_converged
    (h : (Evaluation.pass engine (es₀.map engine.hooksOf) p).converged = true) :
    c.AllStable (Evaluation.pass engine (es₀.map engine.hooksOf) p).elements := by
  have hsame := Evaluation.derive_withoutDerived engine (es₀.map engine.hooksOf) p.elements
  rw [Evaluation.pass_eq_derive engine _ h, AllStable, ← stableOn_withoutDerived, hsame,
    stableOn_withoutDerived]
  exact (pass_converged_iff hd hp).1 h

/-- **One more rank.** A pass over a state that is stable up to a rank leaves one that is stable up to the
next rank. -/
theorem pass_rank {n : Nat} (h : c.StableOn (c.rank · ≤ n) p.elements) :
    c.StableOn (c.rank · ≤ n + 1)
      (Evaluation.pass engine (es₀.map engine.hooksOf) p).elements := by
  obtain ⟨es, hes, hstable, helements, -⟩ := pass_reacts hp
  rw [helements]
  -- of the next rank, the ids that the pass has come past
  have hspread := react_stable hd hes p.changed
    (Q := fun place id => c.rank id ≤ n ∨
      c.rank id ≤ n + 1 ∧ id ∈ (es₀.take place).map (·.id))
    (by
      rintro place e id he (hid | ⟨hid, hmem⟩)
      · exact .inr (.inl hid)
      · rcases (mem_take_succ he).1 hmem with hmem | hmem
        · exact .inr (.inr ⟨hid, hmem⟩)
        · exact .inl hmem)
    (by
      intro place e x _ hx hreacts hrank hdep
      have hlt := c.rank_lt x hx hreacts e.id hdep
      rcases hrank with hrank | ⟨hrank, -⟩ <;> exact .inl (by omega))
    (((hstable _).2 h).mono fun e _ hid => hid.resolve_right (by simp))
  exact hspread.mono fun e he hrank =>
    .inr ⟨hrank, mem_take_length hes (react_state hd hes p.changed) he⟩

/-- **All at once.** If the elements are declared after those they are computed from, one pass leaves
every element stable. -/
theorem pass_ordered
    (hordered : ∀ (i j : Nat) (e d : Element), es₀[i]? = some e → e.Reacts → es₀[j]? = some d →
      d.id ∈ c.deps e.id → j < i) :
    c.AllStable (Evaluation.pass engine (es₀.map engine.hooksOf) p).elements := by
  obtain ⟨es, hes, -, helements, -⟩ := pass_reacts hp
  rw [helements]
  have hspread := react_stable hd hes p.changed
    (Q := fun place id => id ∈ (es₀.take place).map (·.id))
    (fun place e id he hid => ((mem_take_succ he).1 hid).symm)
    (by
      intro place e x he hx hreacts hmem hdep
      obtain ⟨y, hy, hid⟩ := List.mem_map.1 hmem
      obtain rfl := hd.eq_of_id (List.mem_of_mem_take hy) hx hid
      obtain ⟨i, hi, hget⟩ := List.mem_take_iff_getElem.1 hy
      have hi₀ : es₀[i]? = some y := List.getElem?_eq_some_iff.2 ⟨_, hget⟩
      have := hordered i place y e hi₀ hreacts he hdep
      omega)
    (fun e _ _ hid => absurd hid List.not_mem_nil)
  exact hspread.mono fun e he _ => mem_take_length hes (react_state hd hes p.changed) he

/-! ## Many passes -/

/-- **Levels.** If every pass climbs one level and at level `m` all elements are stable, then passes from
level `k` are at most `m + 1 - k`, and that many are enough. -/
theorem iterate_levels {L : Nat → List Element → Prop} {m : Nat}
    (hclimb : ∀ k p, c.State p.elements → L k p.elements →
      L (k + 1) (Evaluation.pass engine (es₀.map engine.hooksOf) p).elements)
    (htop : ∀ es, c.State es → L m es → c.AllStable es)
    (left : Nat) {k : Nat} (hk : k ≤ m) (hlevel : L k p.elements) :
    (Evaluation.iterate engine (es₀.map engine.hooksOf) left p).passes + k ≤ p.passes + m + 1 ∧
      (m < left + k →
        (Evaluation.iterate engine (es₀.map engine.hooksOf) left p).converged = true) := by
  induction left generalizing k p with
  | zero => exact ⟨by rw [Evaluation.iterate]; omega, fun h => by omega⟩
  | succ left ih =>
    simp only [Evaluation.iterate]
    cases hc : (Evaluation.pass engine (es₀.map engine.hooksOf) p).converged with
    | true =>
      simp only [if_true, hc, Evaluation.pass_passes, implies_true, and_true]
      omega
    | false =>
      have hne : k ≠ m := by
        rintro rfl
        rw [(pass_converged_iff hd hp).2 (htop _ hp hlevel)] at hc
        cases hc
      obtain ⟨hpasses, hconverged⟩ := ih (pass_state hd hp) (by omega : k + 1 ≤ m)
        (hclimb k p hp hlevel)
      rw [Evaluation.pass_passes] at hpasses
      simp only [Bool.false_eq_true, if_false]
      exact ⟨by omega, fun h => hconverged (by omega)⟩

/-- Passes that converge leave every element stable. -/
theorem iterate_allStable (hstart : p.converged = false) (left : Nat)
    (h : (Evaluation.iterate engine (es₀.map engine.hooksOf) left p).converged = true) :
    c.AllStable (Evaluation.iterate engine (es₀.map engine.hooksOf) left p).elements := by
  have hkept := Evaluation.iterate_induction engine (es₀.map engine.hooksOf)
    (P := fun q => c.State q.elements ∧ (q.converged = true → c.AllStable q.elements))
    (fun q hq => ⟨pass_state hd hq.1, allStable_of_converged hd hq.1⟩)
    left ⟨hp, fun hc => absurd hc (by simp [hstart])⟩
  exact hkept.2 h

end

/-! ## Evaluations -/

section

variable (hd : Distinct es₀) (hstart : c.occurs es₀) {limit : Nat}

include hd hstart

/-- An evaluation that may run one pass more than the greatest rank converges in that many. -/
theorem run_rank {h : Nat} (hrank : ∀ e ∈ es₀, c.rank e.id ≤ h) (hlimit : h + 1 ≤ limit) :
    (Evaluation.run engine (es₀.map engine.hooksOf) limit es₀).converged = true ∧
      (Evaluation.run engine (es₀.map engine.hooksOf) limit es₀).passes ≤ h + 1 := by
  have hstate : c.State es₀ := ⟨rfl, hstart⟩
  -- at first only the elements without a hook have rank zero, and in the end every rank is reached
  have hbottom : c.StableOn (c.rank · ≤ 0) es₀ := fun e he hreacts hzero =>
    absurd (c.rank_pos e he hreacts) (Nat.not_lt.2 hzero)
  have htop : ∀ es, c.State es → c.StableOn (c.rank · ≤ h) es → c.AllStable es := by
    refine fun es hes hlevel => hlevel.mono fun e he _ => ?_
    obtain ⟨e₀, he₀, hframe⟩ := mem_frame hes he
    rw [← Element.id_eq_of_frame hframe]
    exact hrank e₀ he₀
  obtain ⟨hpasses, hconverged⟩ := iterate_levels hd hstate (p := { elements := es₀ })
    (L := fun k => c.StableOn (c.rank · ≤ k)) (fun k p hp hlevel => pass_rank hd hp hlevel) htop
    (max limit 1) (Nat.zero_le h) hbottom
  rw [Evaluation.run_converged, Evaluation.run_passes]
  exact ⟨hconverged (by omega), by simpa using hpasses⟩

/-- If the elements are declared after those they are computed from, there are at most two passes. -/
theorem run_ordered
    (hordered : ∀ (i j : Nat) (e d : Element), es₀[i]? = some e → e.Reacts → es₀[j]? = some d →
      d.id ∈ c.deps e.id → j < i) :
    (Evaluation.run engine (es₀.map engine.hooksOf) limit es₀).passes ≤ 2 := by
  have hstate : c.State es₀ := ⟨rfl, hstart⟩
  obtain ⟨hpasses, -⟩ := iterate_levels hd hstate (p := { elements := es₀ })
    (L := fun k es => k = 0 ∨ c.AllStable es) (m := 1)
    (fun _ p hp _ => .inr (pass_ordered hd hp hordered))
    (fun _ _ hlevel => hlevel.resolve_left Nat.one_ne_zero)
    (max limit 1) (Nat.zero_le 1) (.inl rfl)
  rw [Evaluation.run_passes]
  simpa using hpasses

theorem run_allStable
    (h : (Evaluation.run engine (es₀.map engine.hooksOf) limit es₀).converged = true) :
    c.AllStable (Evaluation.run engine (es₀.map engine.hooksOf) limit es₀).elements := by
  have hstate : c.State es₀ := ⟨rfl, hstart⟩
  rw [Evaluation.run_converged] at h
  rw [Evaluation.run, Evaluation.settle_of_converged _ _ h]
  exact iterate_allStable hd (p := { elements := es₀ }) hstate rfl (max limit 1) h

end

/-- **Cascades converge.** Let there be a cascade over the elements of a snapshot in which this very state
may occur, let `h` be a bound of the ranks, and let the registry have any history. Then an evaluation that
may run `h + 1` passes converges in that many. It leaves the elements as they were but for what evaluation
is about, and each element with a hook has the value that its hook computes from the final values, in
range and up to spelling. If moreover the elements are declared after those they are computed from, there
are no more than two passes. -/
theorem evaluate_cascade (history : List Registry.Use) {s : Snapshot} (c : Cascade engine s.elements)
    (hstart : c.occurs s.elements) {h limit : Nat}
    (hrank : ∀ e ∈ s.elements, c.rank e.id ≤ h) (hlimit : h + 1 ≤ limit) :
    let outcome := Evaluation.evaluate engine limit (Registry.afterUses engine history) s
    let final := outcome.snapshot.elements
    outcome.converged = true ∧ outcome.passes ≤ h + 1 ∧
      final.map Element.frame = s.elements.map Element.frame ∧
      (∀ e ∈ final, e.Reacts →
        e.value.same (e.clamp (c.result e.id (valueIn final))) = true) ∧
      ((∀ (i j : Nat) (e d : Element), s.elements[i]? = some e → e.Reacts →
        s.elements[j]? = some d → d.id ∈ c.deps e.id → j < i) → outcome.passes ≤ 2) := by
  intro outcome final
  have hd : Distinct s.elements := s.distinct
  have hsound := Registry.sound_afterUses engine history
  have hfinal : final =
      (Evaluation.run engine (s.elements.map engine.hooksOf) limit s.elements).elements := by
    simp only [final, outcome, Evaluation.evaluate_snapshot hsound, Evaluation.settled]
  obtain ⟨hconverged, hpasses⟩ := run_rank hd hstart hrank hlimit
  rw [hfinal, Evaluation.evaluate_converged hsound, Evaluation.evaluate_passes hsound]
  refine ⟨hconverged, hpasses, Evaluation.run_frame engine _ limit s.elements, ?_, ?_⟩
  · exact fun e he hreacts => run_allStable hd hstart hconverged e he hreacts trivial
  · exact run_ordered hd hstart

/-! ## A cascade of scripts -/

section

open Script

/-- A number that others are computed from. -/
def origin : Element := { id := "a", type := .number, value := .int 7 }

/-- An element that is given the value of `origin`. -/
def copy : Element :=
  { id := "b", type := .text, hooks := { onValueChanged := some "value_of(elements, \"a\")" } }

def copied : Element := { copy with value := .int 7 }

/-- The script of `copy`. -/
def copyProgram : Script.Program where
  parameters := HookKind.parameters
  body := [.expr (.call "value_of" [.variable "elements" false ⟨1, 10⟩, .literal (.text "a") ⟨1, 20⟩]
    false ⟨1, 1⟩)]
  functions := []

theorem compile_copy : Sandbox.compile {} HookKind.parameters "value_of(elements, \"a\")" =
    .ok copyProgram := by
  cbv

theorem hooksOf_copy :
    (Sandbox.engine {}).hooksOf copy = { onValueChanged := some (.script copyProgram) } := by
  rw [← Sandbox.compiled_of_compile compile_copy]
  rfl

theorem run_copy {e : Element} (he : e = copy ∨ e = copied) :
    Sandbox.run {} copyProgram [.array (elementViews [origin, e]), elementView e] =
      .ok ⟨.int 7, [("element", elementView e), ("elements", .array (elementViews [origin, e]))]⟩ := by
  rcases he with rfl | rfl <;> rfl

theorem computes_copy {e : Element} (he : e = copy ∨ e = copied) :
    (Sandbox.engine {}).Computes [origin, e] e (.int 7) := by
  have hsource : e.hooks.source? .onValueChanged = some "value_of(elements, \"a\")" := by
    rcases he with rfl | rfl <;> rfl
  exact Sandbox.computes_of_run hsource compile_copy (run_copy he) nofun rfl

/-- The cascade of two elements, of which the second is computed from the first. -/
def copyCascade : Cascade (Sandbox.engine {}) [origin, copy] where
  deps _ := {d | d = "a"}
  result _ vs := vs "a"
  rank id := if id = "a" then 0 else 1
  occurs es := ∃ e, (e = copy ∨ e = copied) ∧ es = [origin, e]
  result_congr h := h "a" rfl
  rank_pos := by decide
  rank_lt := by
    rintro e he hreacts d rfl
    revert e
    decide
  derived := by
    rintro es - ⟨e, he, rfl⟩
    refine ⟨e, he, ?_⟩
    rcases he with rfl | rfl <;> rfl
  written := by
    -- only the second element is written, and it is given the value of the first
    rintro es - ⟨x, hx, rfl⟩ place e he hreacts
    refine ⟨copied, .inr rfl, ?_⟩
    match place with
    | 0 =>
      obtain rfl := Option.some.inj he
      exact absurd hreacts (by decide)
    | 1 =>
      obtain rfl := Option.some.inj he
      rcases hx with rfl | rfl <;> rfl
    | place + 2 => cases he
  answers := by
    rintro es - ⟨x, hx, rfl⟩ e he hreacts
    rcases List.mem_pair.1 he with rfl | rfl
    · exact absurd hreacts (by decide)
    · exact ⟨computes_copy hx, nofun⟩

/-- A cascade of scripts that converges. -/
theorem evaluate_copyCascade :
    let s : Snapshot := ⟨[origin, copy], ∅, by decide⟩
    copyCascade.occurs s.elements ∧
      (∀ e ∈ s.elements, copyCascade.rank e.id ≤ 1) ∧ 1 + 1 ≤ 2 ∧
      (Evaluation.evaluate (Sandbox.engine {}) 2 {} s).converged = true := by
  intro s
  have hoccurs : copyCascade.occurs [origin, copy] := ⟨copy, .inl rfl, rfl⟩
  have hrank : ∀ e ∈ [origin, copy], copyCascade.rank e.id ≤ 1 := by decide
  exact ⟨hoccurs, hrank, Nat.le_refl 2,
    (evaluate_cascade [] (s := s) copyCascade hoccurs hrank (Nat.le_refl 2)).1⟩

/-! ## What a cascade needs -/

/-- Convergence with less asked for: the elements with a hook have at least some rank, and what is computed
for them may be `null`. -/
def ConvergesFrom (least : Nat) : Prop :=
  ∀ (s : Snapshot) (deps : String → Set String) (result : String → (String → Json) → Json)
    (rank : String → Nat) (h limit : Nat),
    (∀ es, es.map Element.frame = s.elements.map Element.frame → ∀ e ∈ es, e.Reacts →
      (Sandbox.engine {}).Computes es e (result e.id (valueIn es))) →
    (∀ id vs vs', (∀ d ∈ deps id, vs d = vs' d) → result id vs = result id vs') →
    (∀ e ∈ s.elements, ¬e.Reacts → rank e.id = 0) →
    (∀ e ∈ s.elements, e.Reacts → least ≤ rank e.id ∧ ∀ d ∈ deps e.id, rank d < rank e.id) →
    (∀ e ∈ s.elements, rank e.id ≤ h) → h + 1 ≤ limit →
    let outcome := Evaluation.evaluate (Sandbox.engine {}) limit {} s
    let final := outcome.snapshot.elements
    outcome.converged = true ∧ outcome.passes ≤ h + 1 ∧
      ∀ e ∈ final, e.Reacts → e.value.same (e.clamp (result e.id (valueIn final))) = true

/-- An element that is computed from nothing. -/
def constant : Element :=
  { id := "a", type := .text, hooks := { onValueChanged := some "42" } }

/-- An element that is computed to be no number, which is `null` as JSON. -/
def noNumber : Element :=
  { id := "a", type := .text, value := .str "kept"
    hooks := { onValueChanged := some "parse_float(\"nan\")" } }

def noNumberProgram : Script.Program where
  parameters := HookKind.parameters
  body := [.expr (.call "parse_float" [.literal (.text "nan") ⟨1, 13⟩] false ⟨1, 1⟩)]
  functions := []

theorem compile_constant : Sandbox.compile {} HookKind.parameters "42" =
    .ok (Sandbox.literalProgram (.int 42) ⟨1, 1⟩) := by
  cbv

theorem compile_noNumber : Sandbox.compile {} HookKind.parameters "parse_float(\"nan\")" =
    .ok noNumberProgram := by
  cbv

/-- A constant of rank zero takes a second pass. -/
theorem not_convergesFrom_zero : ¬ConvergesFrom 0 := by
  intro h
  have hcomputes : ∀ es, es.map Element.frame = [constant].map Element.frame → ∀ e ∈ es,
      e.Reacts → (Sandbox.engine {}).Computes es e (.int 42) := by
    intro es hframe e he _
    have hsource : e.hooks.source? .onValueChanged = some "42" := by
      rw [hooks_of_frame_singleton hframe he]
      rfl
    have hshared : ∀ cell, Value.int 42 ≠ .shared cell := by simp
    exact Sandbox.computes_of_run hsource compile_constant (Sandbox.run_literal hshared _ es e)
      nofun rfl
  obtain ⟨hconverged, -⟩ := h ⟨[constant], ∅, by decide⟩ (fun _ => ∅) (fun _ _ => .int 42) (fun _ => 0) 0 1
    hcomputes (fun _ _ _ _ => rfl) (fun _ _ _ => rfl)
    (fun _ _ _ => ⟨Nat.le_refl 0, fun _ hd => hd.elim⟩) (fun _ _ => Nat.le_refl 0) (Nat.le_refl 1)
  have hhooks : [constant].map (Sandbox.engine {}).hooksOf =
      [{ onValueChanged := some (.script (Sandbox.literalProgram (.int 42) ⟨1, 1⟩)) }] := by
    rw [← Sandbox.compiled_of_compile compile_constant]
    rfl
  rw [Evaluation.evaluate_converged Registry.sound_empty, hhooks] at hconverged
  exact absurd hconverged (by decide)

/-- A result that is `null` as JSON is not written, even if it comes from a value other than the unit. -/
theorem not_convergesFrom_one : ¬ConvergesFrom 1 := by
  intro h
  have hcomputes : ∀ es, es.map Element.frame = [noNumber].map Element.frame → ∀ e ∈ es,
      e.Reacts → (Sandbox.engine {}).Computes es e .null := by
    intro es hframe e he _
    have hsource : e.hooks.source? .onValueChanged = some "parse_float(\"nan\")" := by
      rw [hooks_of_frame_singleton hframe he]
      rfl
    exact Sandbox.computes_of_run hsource compile_noNumber rfl nofun rfl
  obtain ⟨-, -, hfinal⟩ := h ⟨[noNumber], ∅, by decide⟩ (fun _ => ∅) (fun _ _ => .null) (fun _ => 1) 1 2
    hcomputes (fun _ _ _ _ => rfl) (by decide)
    (fun _ _ _ => ⟨Nat.le_refl 1, fun _ hd => hd.elim⟩) (fun _ _ => Nat.le_refl 1) (Nat.le_refl 2)
  have hhooks : [noNumber].map (Sandbox.engine {}).hooksOf =
      [{ onValueChanged := some (.script noNumberProgram) }] := by
    rw [← Sandbox.compiled_of_compile compile_noNumber]
    rfl
  have hrun : (Evaluation.evaluate (Sandbox.engine {}) 2 {} ⟨[noNumber], ∅, by decide⟩).snapshot.elements =
      [noNumber] := by
    rw [Evaluation.evaluate_snapshot Registry.sound_empty, Evaluation.settled_elements, hhooks]
    rfl
  rw [hrun] at hfinal
  exact absurd (hfinal noNumber List.mem_cons_self (by decide)) (by decide)

/-- So positive ranks are needed, and results that are not `null`. -/
theorem not_convergesFrom : ¬ConvergesFrom 0 ∧ ¬ConvergesFrom 1 :=
  ⟨not_convergesFrom_zero, not_convergesFrom_one⟩

end

end Cascade

end LiveForm

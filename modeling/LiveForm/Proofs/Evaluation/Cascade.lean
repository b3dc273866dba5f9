import LiveForm.Proofs.Evaluation.Writes
import LiveForm.Proofs.Evaluation.Derive
import Mathlib.Data.Set.Defs

/-!
# Cascades of values

In a **cascade** every hook that reacts to values computes the value of its own element from the values of
others, and the elements have ranks: an element of rank zero has no such hook, and every other one is
computed from elements of smaller rank. The values need not come in the order of the elements.

An element is **stable** in a state if its hook would not write. What a pass does to stability is said by
`react_stable`: a set of elements stays stable as long as nothing is written that one of them is computed
from, and each hook adds its own element. The set is a parameter, since convergence is proved with two of
them, one for ranks and one for the order of the elements.
-/

namespace LiveForm

variable {Program : Type}

/-- An element with a hook that reacts to values. -/
def Element.Reacts (e : Element) : Prop := (e.hooks.source? .onValueChanged).isSome

instance (e : Element) : Decidable e.Reacts := inferInstanceAs (Decidable (_ = true))

theorem Element.reacts_of_frame {e e' : Element} (h : e.frame = e'.frame) (hreacts : e'.Reacts) :
    e.Reacts := by
  rw [Element.Reacts, Element.hooks_eq_of_frame h]
  exact hreacts

/-- The value that an id has in a state, `null` if there is no such element. -/
def valueIn (es : List Element) (id : String) : Json :=
  ((es.find? (·.id == id)).map (·.value)).getD .null

/-- Setting a value leaves the values of other ids. -/
theorem valueIn_set {es : List Element} {place : Nat} {e : Element} (he : es[place]? = some e)
    (v : Json) {id : String} (hid : id ≠ e.id) :
    valueIn (es.set place { e with value := v }) id = valueIn es id := by
  simp only [valueIn]
  congr 2
  induction es generalizing place with
  | nil => rfl
  | cons a es ih =>
    cases place with
    | zero =>
      obtain rfl := Option.some.inj he
      have hne : (a.id == id) = false := beq_false_of_ne (Ne.symm hid)
      simp only [List.set_cons_zero, List.find?_cons, hne]
    | succ place =>
      simp only [List.set_cons_succ, List.find?_cons]
      rw [ih (by simpa using he)]

/-- What the hook of an element that reacts to values does in a form: it compiles, it runs without a fault
to a value other than the unit, it leaves its copies of the elements and of its own element alone, and the
JSON form of the value is `result`. -/
def Engine.Computes (engine : Engine Program) (es : List Element) (e : Element) (result : Json) :
    Prop :=
  ∃ source program i, e.hooks.source? .onValueChanged = some source ∧
    engine.compile HookKind.parameters source = .ok program ∧
    engine.run program [.array (Script.elementViews es), Script.elementView e] = .ok i ∧
    i.value? "elements" = some (.array (Script.elementViews es)) ∧
    i.value? "element" = some (Script.elementView e) ∧
    i.result ≠ .unit ∧ i.json? = .ok result

/-- **A cascade**: what each hook that reacts to values computes, and from which values. -/
structure Cascade (engine : Engine Program) (es : List Element) where
  /-- The elements that an element is computed from. -/
  deps : String → Set String
  /-- What is computed of values by id. -/
  result : String → (String → Json) → Json
  rank : String → Nat
  /-- The states that may occur. The hooks need not cope with others. -/
  occurs : List Element → Prop
  result_congr : ∀ {id : String} {vs vs' : String → Json}, (∀ d ∈ deps id, vs d = vs' d) →
    result id vs = result id vs'
  rank_pos : ∀ e ∈ es, e.Reacts → 0 < rank e.id
  rank_lt : ∀ e ∈ es, e.Reacts → ∀ d ∈ deps e.id, rank d < rank e.id
  /-- What is derived of a state that may occur may occur. -/
  derived : ∀ es', es'.map Element.frame = es.map Element.frame → occurs es' →
    occurs (Evaluation.derive engine (es.map engine.hooksOf) es').1
  /-- So may a state in which an element has been given what is computed for it. -/
  written : ∀ es', es'.map Element.frame = es.map Element.frame → occurs es' →
    ∀ (place : Nat) (e : Element), es'[place]? = some e → e.Reacts →
    occurs (es'.set place { e with value := e.clamp (result e.id (valueIn es')) })
  /-- In the states that may occur, each hook computes the result for its element, which is not
  `null`. -/
  answers : ∀ es', es'.map Element.frame = es.map Element.frame → occurs es' →
    ∀ e ∈ es', e.Reacts →
    engine.Computes es' e (result e.id (valueIn es')) ∧ result e.id (valueIn es') ≠ .null

namespace Cascade

variable {engine : Engine Program} {es₀ : List Element} (c : Cascade engine es₀)

/-- A state of the cascade. -/
structure State (es : List Element) : Prop where
  frame : es.map Element.frame = es₀.map Element.frame
  occurs : c.occurs es

/-- An element that has, up to spelling, the value that its hook computes. -/
def Stable (es : List Element) (e : Element) : Prop :=
  e.value.same (e.clamp (c.result e.id (valueIn es))) = true

/-- A state in which the elements with a hook are stable whose ids are in a set. -/
def StableOn (Q : String → Prop) (es : List Element) : Prop :=
  ∀ e ∈ es, e.Reacts → Q e.id → c.Stable es e

/-- A state in which every element with a hook is stable. -/
def AllStable (es : List Element) : Prop := c.StableOn (fun _ => True) es

variable {c}

theorem StableOn.mono {es : List Element} {Q Q' : String → Prop} (h : c.StableOn Q es)
    (hQ : ∀ e ∈ es, Q' e.id → Q e.id) : c.StableOn Q' es :=
  fun e he hreacts hid => h e he hreacts (hQ e he hid)

theorem Stable.congr {es es' : List Element} {e : Element} (h : c.Stable es e)
    (hdeps : ∀ d ∈ c.deps e.id, valueIn es d = valueIn es' d) : c.Stable es' e := by
  rw [Stable, ← c.result_congr hdeps]
  exact h

/-- Members of two states with one id have one frame. -/
theorem mem_frame {es : List Element} (hes : c.State es) {e : Element} (he : e ∈ es) :
    ∃ e₀ ∈ es₀, e₀.frame = e.frame := mem_of_frame hes.frame he

/-- So have the elements at one place. -/
theorem getElem?_frame {es : List Element} (hes : c.State es) {place : Nat} {e : Element}
    (he : es[place]? = some e) : ∃ e₀, es₀[place]? = some e₀ ∧ e₀.frame = e.frame := by
  have h := congrArg (·[place]?) hes.frame
  simp only [List.getElem?_map, he, Option.map_some] at h
  exact Option.map_eq_some_iff.1 h.symm

theorem rank_lt_of_mem {es : List Element} (hes : c.State es) {e : Element} (he : e ∈ es)
    (hreacts : e.Reacts) {d : String} (hd : d ∈ c.deps e.id) : c.rank d < c.rank e.id := by
  obtain ⟨e₀, he₀, hframe⟩ := mem_frame hes he
  rw [← Element.id_eq_of_frame hframe] at hd ⊢
  exact c.rank_lt e₀ he₀ (Element.reacts_of_frame hframe hreacts) d hd

/-! ## One hook -/

/-- **A call** in a state of the cascade is one write of what is computed. -/
theorem callAt_eq (hd : Distinct es₀) {r : Reaction} (hstate : c.State r.elements)
    (hviews : r.views = Script.elementViews r.elements) {place : Nat} {e : Element}
    (he : r.elements[place]? = some e) {source : String}
    (hsource : e.hooks.source? .onValueChanged = some source) :
    r.callAt engine place (engine.compiled source) =
      r.write ⟨place, c.result e.id (valueIn r.elements)⟩ := by
  have hreacts : e.Reacts := by simp [Element.Reacts, hsource]
  obtain ⟨⟨source, program, i, hsource', hcompile, hrun, helements, helement, -, hresult⟩, hne⟩ :=
    c.answers r.elements hstate.frame hstate.occurs e (List.mem_of_getElem? he) hreacts
  obtain rfl := Option.some.inj (hsource.symm.trans hsource')
  have hview : r.views[place]? = some (Script.elementView e) := by
    rw [hviews]
    exact Script.getElem?_elementViews he
  have hcall : engine.callHook (engine.compiled source) r.views (Script.elementView e) =
      .ok (some i) := by
    simp only [Engine.compiled, hcompile, Engine.callHook, hviews, hrun]
    rfl
  have hwrites := Evaluation.collectWrites_untouched (hd.of_frame hstate.frame) he helements
    helement hresult
  rw [if_neg hne, ← hviews] at hwrites
  simp only [Reaction.callAt, he, hview, hcall, hwrites, List.foldl_cons, List.foldl_nil]

/-- The write leads to another state of the cascade. -/
theorem state_write {r : Reaction} (hstate : c.State r.elements) {place : Nat} {e : Element}
    (he : r.elements[place]? = some e) (hreacts : e.Reacts) :
    c.State (r.write ⟨place, c.result e.id (valueIn r.elements)⟩).elements := by
  refine ⟨(Reaction.write_frame r _).trans hstate.frame, ?_⟩
  cases hsame : e.value.same (e.clamp (c.result e.id (valueIn r.elements))) with
  | true =>
    rw [Reaction.write_of_same he hsame]
    exact hstate.occurs
  | false =>
    rw [Reaction.write_of_not_same he hsame]
    exact c.written r.elements hstate.frame hstate.occurs place e he hreacts

/-- A value set where it is not looked at keeps an element stable. -/
theorem Stable.set {es : List Element} {x : Element} (hx : c.Stable es x) {place : Nat}
    {e : Element} (he : es[place]? = some e) (v : Json) (hdep : e.id ∉ c.deps x.id) :
    c.Stable (es.set place { e with value := v }) x := by
  refine hx.congr fun d hd => (valueIn_set he v ?_).symm
  rintro rfl
  exact hdep hd

/-- An element that has been written is stable. -/
theorem stable_written {es : List Element} (hes : c.State es) {place : Nat} {e : Element}
    (he : es[place]? = some e) (hreacts : e.Reacts) :
    let written := { e with value := e.clamp (c.result e.id (valueIn es)) }
    c.Stable (es.set place written) written := by
  intro written
  have hself : e.id ∉ c.deps e.id := fun h =>
    Nat.lt_irrefl _ (rank_lt_of_mem hes (List.mem_of_getElem? he) hreacts h)
  have hstable : c.Stable es written := Json.same_refl written.value
  exact hstable.set he _ hself

/-- **A write** adds its element to the stable ones, and all others stay stable unless one of them is computed
from an element that was not. -/
theorem StableOn.write (hd : Distinct es₀) {r : Reaction} (hstate : c.State r.elements)
    {place : Nat} {e : Element} (he : r.elements[place]? = some e) (hreacts : e.Reacts)
    {Q Q' : String → Prop} (h : c.StableOn Q r.elements)
    (hgrow : ∀ id, Q' id → id = e.id ∨ Q id)
    (hdeps : ∀ x ∈ r.elements, x.Reacts → Q' x.id → e.id ∈ c.deps x.id → Q e.id) :
    c.StableOn Q' (r.write ⟨place, c.result e.id (valueIn r.elements)⟩).elements := by
  have hdistinct := hd.of_frame hstate.frame
  have hmem := List.mem_of_getElem? he
  cases hsame : e.value.same (e.clamp (c.result e.id (valueIn r.elements))) with
  | true =>
    -- nothing is written, and the element at this place is stable
    rw [Reaction.write_of_same he hsame]
    intro x hx hxreacts hQ
    rcases hgrow x.id hQ with hid | hQ
    · obtain rfl := hdistinct.eq_of_id hx hmem hid
      exact hsame
    · exact h x hx hxreacts hQ
  | false =>
    -- the element at this place was not stable, so no member is computed from it
    have hnot : ¬Q e.id := by
      intro hQ
      have hstable := h e hmem hreacts hQ
      rw [Stable, hsame] at hstable
      cases hstable
    have hafter := hd.of_frame (state_write hstate he hreacts).frame
    rw [Reaction.write_of_not_same he hsame] at hafter ⊢
    intro x hx hxreacts hQ
    by_cases hid : x.id = e.id
    · have hwritten := List.mem_set (List.getElem?_eq_some_iff.1 he).1
        { e with value := e.clamp (c.result e.id (valueIn r.elements)) }
      obtain rfl := hafter.eq_of_id hx hwritten hid
      exact stable_written hstate he hreacts
    · obtain hx | rfl := List.mem_or_eq_of_mem_set hx
      · have hbefore : Q x.id := (hgrow x.id hQ).resolve_left hid
        exact (h x hx hxreacts hbefore).set he _ fun hdep => hnot (hdeps x hx hxreacts hQ hdep)
      · exact absurd rfl hid

/-! ## One pass -/

section

variable (hd : Distinct es₀) {es : List Element} (hes : c.State es) (changed : List String)

include hd hes

/-- **A pass over a cascade** is one write after the other, in the order of the elements. What is true at
a place and is kept by the write of the element there is true at the next place. -/
theorem react_induction {P : Nat → Reaction → Prop} (hstart : P 0 (Reaction.start es changed))
    (hskip : ∀ place r e, c.State r.elements → r.elements[place]? = some e → ¬e.Reacts →
      P place r → P (place + 1) r)
    (hwrite : ∀ place r e, c.State r.elements → r.elements[place]? = some e → e.Reacts →
      P place r → P (place + 1) (r.write ⟨place, c.result e.id (valueIn r.elements)⟩)) :
    P es.length (Evaluation.react engine (es.map engine.hooksOf) es changed) ∧
      c.State (Evaluation.react engine (es.map engine.hooksOf) es changed).elements := by
  suffices h : ∀ rest front r, es = front ++ rest → c.State r.elements → Reaction.Tracks es r →
      P front.length r →
      P es.length (r.callFrom engine front.length (rest.map engine.hooksOf)) ∧
        c.State (r.callFrom engine front.length (rest.map engine.hooksOf)).elements from
    h es [] _ rfl hes (Reaction.Tracks.start es changed) hstart
  intro rest
  induction rest with
  | nil =>
    intro front r hfront hstate _ hP
    rw [hfront, List.append_nil]
    exact ⟨hP, hstate⟩
  | cons e₀ rest ih =>
    intro front r hfront hstate ht hP
    -- the element at this place, in its present state
    obtain ⟨e, he, hframe, -⟩ := ht.at_front (congrArg (List.map Element.frame) hfront)
    have hnext : es = (front ++ [e₀]) ++ rest := by
      rw [hfront, List.append_assoc]
      rfl
    have hhook : (engine.hooksOf e₀).onValueChanged =
        (e.hooks.source? .onValueChanged).map engine.compiled := by
      rw [← Engine.hooksOf_frame, ← hframe, Engine.hooksOf_frame]
      rfl
    have ih := ih (front ++ [e₀])
    rw [List.length_append, List.length_singleton] at ih
    simp only [List.map_cons, Reaction.callFrom, hhook]
    cases hsource : e.hooks.source? .onValueChanged with
    | none =>
      have hreacts : ¬e.Reacts := by simp [Element.Reacts, hsource]
      exact ih r hnext hstate ht (hskip _ r e hstate he hreacts hP)
    | some source =>
      have hreacts : e.Reacts := by simp [Element.Reacts, hsource]
      simp only [Option.map_some, callAt_eq hd hstate ht.shown he hsource]
      exact ih _ hnext (state_write hstate he hreacts) (ht.write _)
        (hwrite _ r e hstate he hreacts hP)

theorem react_state :
    c.State (Evaluation.react engine (es.map engine.hooksOf) es changed).elements :=
  (react_induction hd hes changed (P := fun _ _ => True) trivial (fun _ _ _ _ _ _ h => h)
    fun _ _ _ _ _ _ h => h).2

/-- A pass that writes nothing finds every element stable. -/
theorem stable_of_clean
    (hclean : (Evaluation.react engine (es.map engine.hooksOf) es changed).dirty = false) :
    c.AllStable es := by
  have h := react_induction hd hes changed
    (P := fun place r => r.dirty = false → r.elements = es ∧
      ∀ j e, j < place → es[j]? = some e → e.Reacts → c.Stable es e)
    (fun _ => ⟨rfl, fun j _ hj => absurd hj (Nat.not_lt_zero j)⟩)
    (by
      intro place r e _ he hreacts ih hr
      obtain ⟨rfl, ih⟩ := ih hr
      refine ⟨rfl, fun j x hj hx hxreacts => ?_⟩
      rcases Nat.lt_succ_iff_lt_or_eq.1 hj with hj | rfl
      · exact ih j x hj hx hxreacts
      · obtain rfl := Option.some.inj (he.symm.trans hx)
        exact absurd hxreacts hreacts)
    (by
      intro place r e _ he hreacts ih hr
      cases hsame : e.value.same (e.clamp (c.result e.id (valueIn r.elements))) with
      | false =>
        rw [Reaction.write_of_not_same he hsame] at hr
        cases hr
      | true =>
        rw [Reaction.write_of_same he hsame] at hr ⊢
        obtain ⟨rfl, ih⟩ := ih hr
        refine ⟨rfl, fun j x hj hx hxreacts => ?_⟩
        rcases Nat.lt_succ_iff_lt_or_eq.1 hj with hj | rfl
        · exact ih j x hj hx hxreacts
        · obtain rfl := Option.some.inj (he.symm.trans hx)
          exact hsame)
  intro e he hreacts _
  obtain ⟨j, hj⟩ := List.mem_iff_getElem?.1 he
  obtain ⟨hlt, -⟩ := List.getElem?_eq_some_iff.1 hj
  exact (h.1 hclean).2 j e hlt hj hreacts

/-- A pass over stable elements writes nothing. -/
theorem clean_of_stable (hstable : c.AllStable es) :
    (Evaluation.react engine (es.map engine.hooksOf) es changed).dirty = false := by
  have h := react_induction hd hes changed (P := fun _ r => r = Reaction.start es changed) rfl
    (fun _ _ _ _ _ _ ih => ih)
    (by
      rintro place r e - he hreacts rfl
      exact Reaction.write_of_same he (hstable e (List.mem_of_getElem? he) hreacts trivial))
  rw [h.1]
  rfl

/-- **Stability spreads.** The elements with ids in `Q place` are stable when a pass has come to this
place. At each place the set may grow by the element there; an element that is not yet in it must not be
one that a member is computed from. -/
theorem react_stable {Q : Nat → String → Prop}
    (hgrow : ∀ place e id, es₀[place]? = some e → Q (place + 1) id → id = e.id ∨ Q place id)
    (hdeps : ∀ place e x, es₀[place]? = some e → x ∈ es₀ → x.Reacts → Q (place + 1) x.id →
      e.id ∈ c.deps x.id → Q place e.id)
    (hstart : c.StableOn (Q 0) es) :
    c.StableOn (Q es.length)
      (Evaluation.react engine (es.map engine.hooksOf) es changed).elements := by
  refine (react_induction hd hes changed (P := fun place r => c.StableOn (Q place) r.elements)
    hstart ?_ ?_).1
  · intro place r e hstate he hreacts ih x hx hxreacts hQ
    obtain ⟨e₀, he₀, hframe⟩ := getElem?_frame hstate he
    rcases hgrow place e₀ x.id he₀ hQ with hid | hQ
    · rw [Element.id_eq_of_frame hframe] at hid
      obtain rfl := (hd.of_frame hstate.frame).eq_of_id hx (List.mem_of_getElem? he) hid
      exact absurd hxreacts hreacts
    · exact ih x hx hxreacts hQ
  · intro place r e hstate he hreacts ih
    obtain ⟨e₀, he₀, hframe⟩ := getElem?_frame hstate he
    refine ih.write hd hstate he hreacts ?_ ?_ <;> rw [← Element.id_eq_of_frame hframe]
    · exact fun id hQ => hgrow place e₀ id he₀ hQ
    · intro x hx hxreacts hQ hdep
      obtain ⟨x₀, hx₀, hxframe⟩ := mem_frame hstate hx
      rw [← Element.id_eq_of_frame hxframe] at hQ hdep
      exact hdeps place e₀ x₀ he₀ hx₀ (Element.reacts_of_frame hxframe hxreacts) hQ hdep

end

end Cascade

end LiveForm

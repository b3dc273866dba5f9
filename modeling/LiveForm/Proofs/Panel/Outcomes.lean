import LiveForm.Proofs.Panel.Baseline
import LiveForm.Proofs.Panel.Compilation
import LiveForm.Proofs.Panel.Stale
import Mathlib.Data.List.Perm.Basic

/-!
# Outcomes of actions, one after the other

Actions run side by side, and their outcomes come in whatever order they complete. An outcome is a list of
changes, and of several changes to one id the last one counts. On a form whose hooks do not react to values
that is all there is to say: after any outcomes every element has the last value that a change of its id asks
for, moved into range, and the value it had if there is none (`after_outcomes`). So outcomes compose, one after
the other or all in one list (`outcomes_compose`), and those that touch no id in common may come in any order.

An outcome that names no element of the form publishes nothing. The flags are still those of the values then,
since they were before.
-/

namespace LiveForm

variable {Program : Type}

/-! ## The last change of an id -/

/-- The value that the last change of an id asks for, if there is one. -/
def lastChange? (changes : List ValueAssignment) (id : String) : Option Json :=
  (changes.reverse.find? (·.id == id)).map (·.value)

section

variable {changes : List ValueAssignment} {id : String}

theorem lastChange?_append (changes more : List ValueAssignment) (id : String) :
    lastChange? (changes ++ more) id = (lastChange? more id).or (lastChange? changes id) := by
  rw [lastChange?, List.reverse_append, List.find?_append, Option.map_or]
  rfl

theorem lastChange?_eq_none : lastChange? changes id = none ↔ ∀ c ∈ changes, c.id ≠ id := by
  simp [lastChange?]

/-- Changes of other ids do not count. -/
theorem lastChange?_filter {p : ValueAssignment → Bool} (hp : ∀ c ∈ changes, c.id = id → p c = true) :
    lastChange? (changes.filter p) id = lastChange? changes id := by
  rw [lastChange?, ← List.filter_reverse, List.find?_filter, lastChange?]
  congr 1
  refine List.find?_congr fun c hc => ?_
  cases hid : c.id == id with
  | false => simp
  | true => simp [hp c (List.mem_reverse.1 hc) (eq_of_beq hid)]

/-- The map of a list of changes holds the last one of every id. -/
theorem lookup_ofChanges (changes : List ValueAssignment) (id : String) :
    (Values.ofList (changes.map fun c => (c.id, c.value))).lookup id = lastChange? changes id := by
  rw [Values.lookup_ofList, lastChange?, ← List.map_reverse]
  induction changes.reverse with
  | nil => rfl
  | cons c cs ih =>
    rw [List.map_cons, List.lookup_cons, List.find?_cons, ih, BEq.comm (a := id)]
    cases c.id == id <;> rfl

end

/-- An element given the last value that changes ask for, and left as it is if there is none. -/
def Element.assigned (changes : List ValueAssignment) (e : Element) : Element :=
  ((lastChange? changes e.id).map (Snapshot.withValueOf e)).getD e

namespace Element

theorem assigned_of_some {changes : List ValueAssignment} {e : Element} {value : Json}
    (h : lastChange? changes e.id = some value) : e.assigned changes = Snapshot.withValueOf e value := by
  rw [assigned, h]
  rfl

theorem assigned_of_none {changes : List ValueAssignment} {e : Element}
    (h : lastChange? changes e.id = none) : e.assigned changes = e := by
  rw [assigned, h]
  rfl

/-- An element given one change after another has the last one: no trace is left of what it had between. -/
theorem assigned_assigned (changes more : List ValueAssignment) (e : Element) :
    (e.assigned changes).assigned more = e.assigned (changes ++ more) := by
  have happend := lastChange?_append changes more e.id
  cases hfirst : lastChange? changes e.id with
  | none =>
    rw [hfirst, Option.or_none] at happend
    rw [assigned_of_none hfirst, assigned, assigned, happend]
  | some value =>
    rw [assigned_of_some hfirst]
    cases hmore : lastChange? more e.id with
    | none =>
      rw [hfirst, hmore, Option.none_or] at happend
      rw [assigned_of_some happend]
      exact assigned_of_none (e := Snapshot.withValueOf e value) hmore
    | some later =>
      rw [hmore, Option.some_or] at happend
      rw [assigned_of_some happend]
      exact assigned_of_some (e := Snapshot.withValueOf e value) hmore

/-- What is derived of an element plays no part in it. -/
theorem assigned_withoutDerived (changes : List ValueAssignment) (e : Element) :
    e.withoutDerived.assigned changes = (e.assigned changes).withoutDerived := by
  cases h : lastChange? changes e.id with
  | none =>
    rw [assigned_of_none h]
    exact assigned_of_none (e := e.withoutDerived) h
  | some value =>
    rw [assigned_of_some h]
    exact assigned_of_some (e := e.withoutDerived) h

end Element

/-! ## Outcomes that share no id -/

/-- Two lists of changes that have no id in common. -/
def ApartIds (changes changes' : List ValueAssignment) : Prop :=
  ∀ c ∈ changes, ∀ c' ∈ changes', c.id ≠ c'.id

theorem ApartIds.symm {changes changes' : List ValueAssignment} (h : ApartIds changes changes') :
    ApartIds changes' changes :=
  fun c' hc' c hc => (h c hc c' hc').symm

/-- Of two lists of changes without a common id, one says nothing of an id. -/
theorem ApartIds.lastChange? {changes changes' : List ValueAssignment} (h : ApartIds changes changes')
    (id : String) : lastChange? changes id = none ∨ lastChange? changes' id = none := by
  by_cases hid : ∃ c ∈ changes, c.id = id
  · obtain ⟨c, hc, rfl⟩ := hid
    exact .inr (lastChange?_eq_none.2 fun c' hc' => (h c hc c' hc').symm)
  · exact .inl (lastChange?_eq_none.2 fun c hc hid' => hid ⟨c, hc, hid'⟩)

/-- **Outcomes that share no id** have the same last changes in any order. -/
theorem lastChange?_flatten_perm {outcomes outcomes' : List (List ValueAssignment)}
    (hperm : outcomes.Perm outcomes') (hapart : outcomes.Pairwise ApartIds) (id : String) :
    lastChange? outcomes.flatten id = lastChange? outcomes'.flatten id := by
  induction hperm with
  | nil => rfl
  | cons changes _ ih =>
    rw [List.flatten_cons, List.flatten_cons, lastChange?_append, lastChange?_append,
      ih (List.Pairwise.of_cons hapart)]
  | swap changes changes' outcomes =>
    have h : ApartIds changes' changes := (List.pairwise_cons.1 hapart).1 changes List.mem_cons_self
    simp only [List.flatten_cons, lastChange?_append]
    rcases h.lastChange? id with hnone | hnone
    · rw [hnone, Option.or_none, Option.or_none]
    · rw [hnone, Option.or_none, Option.or_none]
  | trans hfirst _ ih ih' =>
    exact (ih hapart).trans (ih' ((hfirst.pairwise_iff ApartIds.symm).1 hapart))

/-! ## Outcomes applied to a panel -/

namespace Panel

variable {p : Panel Program}

/-- What a panel knows of changes is the last one of every id it has. -/
theorem lookup_knownValues (changes : List ValueAssignment) {id : String}
    (hid : p.published.contains id = true) :
    (p.knownValues changes).lookup id = lastChange? changes id := by
  rw [knownValues, lookup_ofChanges]
  exact lastChange?_filter fun c _ hc => hc ▸ hid

theorem assign_knownValues (changes : List ValueAssignment) {e : Element}
    (he : e ∈ p.published.elements) : (p.knownValues changes).assign e = e.assigned changes := by
  have hid : p.published.contains e.id = true :=
    Snapshot.contains_iff_mem_ids.2 (List.mem_map_of_mem he)
  rw [Values.assign, lookup_knownValues changes hid, Element.assigned]

/-- The operation that applies an outcome is the function that does so. -/
theorem after_applyOutcome (p : Panel Program) (changes : List ValueAssignment) :
    p.after [.applyOutcome changes] = (p.applyOutcome changes).panel :=
  after_of_perform rfl

/-- **One outcome**, on a form whose hooks do not react to values. -/
theorem applyOutcome_withoutDerived (hp : p.Valid) (hsilent : Silent p.published.elements)
    (changes : List ValueAssignment) :
    (p.applyOutcome changes).panel.published.elements.map Element.withoutDerived =
      (p.published.elements.map (Element.assigned changes)).map Element.withoutDerived := by
  rw [← after_applyOutcome, after_one]
  cases hedit : p.edit? (.applyOutcome changes) with
  | none =>
    -- the changes name no element, and nothing is published
    have hidle : ∀ c ∈ changes, c.id ∉ p.published.ids := edit?_eq_none.1 hedit
    have hkept (e : Element) (he : e ∈ p.published.elements) : e.assigned changes = e := by
      refine Element.assigned_of_none (lastChange?_eq_none.2 fun c hc hid => hidle c hc ?_)
      rw [hid]
      exact List.mem_map_of_mem he
    rw [List.map_congr_left hkept, List.map_id']
  | some next =>
    obtain rfl := edit?_applyOutcome hedit
    show (p.publish _).panel.published.elements.map Element.withoutDerived = _
    rw [publish_published hp.sound, Evaluation.settled_withoutDerived,
      Snapshot.setValues_eq_map,
      List.map_congr_left fun e he => assign_knownValues changes he]
    exact hsilent.of_frame (p.published.setValues_frame _)

/-- Outcomes redefine nothing. -/
theorem Keeps.after_outcomes (hp : p.Valid) {es : List Element} {initial : Values}
    (h : p.Keeps es initial) (outcomes : List (List ValueAssignment)) :
    (p.after (outcomes.map .applyOutcome)).Keeps es initial := by
  induction outcomes generalizing p with
  | nil => exact h
  | cons changes outcomes ih =>
    rw [List.map_cons, after_cons]
    exact ih (after_valid hp _) (h.after_one hp (.applyOutcome changes))

/-- What changes make of elements can be said with nothing derived of them. -/
theorem map_assigned_withoutDerived (changes : List ValueAssignment) (es : List Element) :
    (es.map (Element.assigned changes)).map Element.withoutDerived =
      (es.map Element.withoutDerived).map (Element.assigned changes) := by
  rw [List.map_map, List.map_map]
  exact List.map_congr_left fun e _ => (e.assigned_withoutDerived changes).symm

/-- **Many outcomes**, one after the other: every element has the last value that any of them asks for. -/
theorem after_outcomes (hp : p.Valid) (hsilent : Silent p.published.elements)
    (outcomes : List (List ValueAssignment)) :
    (p.after (outcomes.map .applyOutcome)).published.elements.map Element.withoutDerived =
      (p.published.elements.map (Element.assigned outcomes.flatten)).map Element.withoutDerived := by
  induction outcomes generalizing p with
  | nil =>
    have hkept : ∀ e ∈ p.published.elements, e.assigned [] = e := fun _ _ => rfl
    rw [List.flatten_nil, List.map_congr_left hkept, List.map_id']
    rfl
  | cons changes outcomes ih =>
    have hkeeps : p.Keeps p.published.elements p.published.initial := ⟨rfl, rfl⟩
    have hframes := (hkeeps.after_one hp (.applyOutcome changes)).frames
    have hone := applyOutcome_withoutDerived hp hsilent changes
    rw [← after_applyOutcome] at hone
    rw [List.map_cons, after_cons, ih (after_valid hp _) (hsilent.of_frame hframes),
      map_assigned_withoutDerived, hone, map_assigned_withoutDerived, List.map_map,
      map_assigned_withoutDerived]
    refine List.map_congr_left fun e _ => ?_
    exact e.assigned_assigned changes outcomes.flatten

/-- Outcomes that share no id come to the same values in any order. -/
theorem after_outcomes_perm (hp : p.Valid) (hsilent : Silent p.published.elements)
    {outcomes outcomes' : List (List ValueAssignment)} (hperm : outcomes.Perm outcomes')
    (hapart : outcomes.Pairwise ApartIds) :
    (p.after (outcomes.map .applyOutcome)).published.elements.map Element.withoutDerived =
      (p.after (outcomes'.map .applyOutcome)).published.elements.map Element.withoutDerived := by
  have hassigned (e : Element) : e.assigned outcomes.flatten = e.assigned outcomes'.flatten := by
    rw [Element.assigned, lastChange?_flatten_perm hperm hapart]
    rfl
  rw [after_outcomes hp hsilent, after_outcomes hp hsilent, List.map_congr_left fun e _ => hassigned e]

end Panel

/-! ## Flags -/

/-- Where flags fit, flag-blind hooks have derived them from the values alone. -/
theorem Evaluation.Fits.eq_of_withoutDerived {engine : Engine Program} {es es' : List Element}
    (h : Fits engine es) (h' : Fits engine es') (hblind : ∀ e ∈ es, engine.AsksFlagBlind e)
    (hsame : es.map Element.withoutDerived = es'.map Element.withoutDerived) : es = es' := by
  rw [← h, ← h']
  exact derive_of_stale hsame hblind

namespace Panel

variable {p : Panel Program}

/-- Panels that publish one structure are settled in the same way, if their values are the same. -/
theorem Settled.published_eq {q : Panel Program} (hp : p.Settled) (hq : q.Settled)
    (hengine : q.engine = p.engine) (hblind : ∀ e ∈ p.published.elements, p.engine.AsksFlagBlind e)
    (hsame : p.published.elements.map Element.withoutDerived =
      q.published.elements.map Element.withoutDerived)
    (hinitial : p.published.initial = q.published.initial) : p.published = q.published := by
  have hblind' : ∀ e ∈ q.published.elements, q.engine.AsksFlagBlind e := by
    intro e he
    obtain ⟨e', he', hframe⟩ := mem_of_frame (frames_eq_of_withoutDerived hsame.symm) he
    rw [hengine]
    exact (hblind e' he').of_frame hframe
  have hfits := hq.fits hblind'
  rw [hengine] at hfits
  have helements := (hp.fits hblind).eq_of_withoutDerived hfits hblind hsame
  exact Snapshot.ext helements hinitial

/-- **Outcomes compose.** Let no hook of a form react to values. After any session, outcomes that are applied
one after another give every element the value of the last change of its id among all of them, moved into
range, and leave its value where there is none, just as one outcome of all these changes does; nothing but
what is derived changes besides. Outcomes that share no id come to the same values in any order, and if the
hooks for flags and options are flag-blind, to the same snapshot. -/
theorem outcomes_compose (engine : Engine Program) (limit : Nat) (title : Option String) (s : Snapshot)
    (ops : List Operation) :
    let p := (ofSnapshot engine limit title s).panel.after ops
    let applied (outcomes : List (List ValueAssignment)) := p.after (outcomes.map .applyOutcome)
    Silent p.published.elements →
      (∀ outcomes : List (List ValueAssignment),
        (applied outcomes).published.elements.map Element.withoutDerived =
            (p.published.elements.map (Element.assigned outcomes.flatten)).map Element.withoutDerived ∧
          (p.applyOutcome outcomes.flatten).panel.published.elements.map Element.withoutDerived =
            (applied outcomes).published.elements.map Element.withoutDerived) ∧
      ∀ outcomes outcomes' : List (List ValueAssignment), outcomes.Perm outcomes' →
        outcomes.Pairwise ApartIds →
        (applied outcomes).published.elements.map Element.withoutDerived =
            (applied outcomes').published.elements.map Element.withoutDerived ∧
          ((∀ e ∈ p.published.elements, engine.AsksFlagBlind e) →
            (applied outcomes).published = (applied outcomes').published) := by
  intro p applied hsilent
  have hstart := ofSnapshot_valid engine limit title s
  have hp : p.Valid := after_valid hstart ops
  have hsettled : p.Settled := Settled.after hstart (publish_settled Registry.sound_empty s) ops
  have hengine : p.engine = engine := after_engine hstart ops
  constructor
  · intro outcomes
    have hafter := after_outcomes hp hsilent outcomes
    exact ⟨hafter, (applyOutcome_withoutDerived hp hsilent _).trans hafter.symm⟩
  · intro outcomes outcomes' hperm hapart
    have hsame := after_outcomes_perm hp hsilent hperm hapart
    refine ⟨hsame, fun hblind => ?_⟩
    have hkeeps (outcomes : List (List ValueAssignment)) :
        (applied outcomes).Keeps p.published.elements p.published.initial :=
      Keeps.after_outcomes hp ⟨rfl, rfl⟩ outcomes
    have hsame_engine (outcomes : List (List ValueAssignment)) : (applied outcomes).engine = engine :=
      (after_engine hp _).trans hengine
    refine Settled.published_eq (hsettled.after hp _) (hsettled.after hp _) ?_ ?_ hsame ?_
    · rw [hsame_engine, hsame_engine]
    · intro e he
      obtain ⟨e', he', hframe⟩ := mem_of_frame (hkeeps outcomes).frames he
      rw [hsame_engine]
      exact (hblind e' he').of_frame hframe
    · rw [(hkeeps outcomes).initial, (hkeeps outcomes').initial]

/-! ## A text and a slider -/

open Script

/-- A hidden text and a slider, changed by two outcomes. One of them changes the slider twice and names an
element that is not there. -/
theorem outcomes_compose_slider :
    let s : Snapshot := ⟨[hidden, slider], ∅, by decide⟩
    let first : List ValueAssignment := [⟨"s", .int 7⟩, ⟨"z", .null⟩, ⟨"s", .int 99⟩]
    let second : List ValueAssignment := [⟨"a", .str "new"⟩]
    let p := (ofSnapshot (Sandbox.engine {}) 8 none s).panel
    Silent p.published.elements ∧ [first, second].Pairwise ApartIds ∧
      (∀ e ∈ p.published.elements, (Sandbox.engine {}).AsksFlagBlind e) ∧
      (p.after [.applyOutcome first, .applyOutcome second]).published.elements.map (·.value) =
        [.str "new", .int 10] ∧
      (p.after [.applyOutcome first, .applyOutcome second]).published =
        (p.after [.applyOutcome second, .applyOutcome first]).published := by
  intro s first second p
  have hstart : Silent s.elements := by decide
  have hpublished : p.published = Evaluation.settled (Sandbox.engine {}) 8 s :=
    ofSnapshot_published _ _ _ _
  have hframe : p.published.elements.map Element.frame = s.elements.map Element.frame := by
    rw [hpublished]
    exact Evaluation.settled_frame _ _ _
  have hvalues : p.published.elements.map Element.withoutDerived =
      s.elements.map Element.withoutDerived := by
    rw [hpublished]
    exact Evaluation.settled_withoutDerived hstart _ _
  have hsilent : Silent p.published.elements := hstart.of_frame hframe
  have hapart : [first, second].Pairwise ApartIds := by
    rw [List.pairwise_pair]
    simp [ApartIds, first, second]
  have hblind : ∀ e ∈ p.published.elements, (Sandbox.engine {}).AsksFlagBlind e := by
    intro e he
    obtain ⟨e', he', hsame⟩ := mem_of_frame hframe he
    refine Engine.AsksFlagBlind.of_frame ?_ hsame
    rcases List.mem_pair.1 he' with rfl | rfl
    · exact asksFlagBlind_hidden rfl
    · exact Engine.AsksFlagBlind.of_unasked fun kind _ => by cases kind <;> rfl
  have happlied := outcomes_compose (Sandbox.engine {}) 8 none s [] hsilent
  have hnone : (ofSnapshot (Sandbox.engine {}) 8 none s).panel.after [] = p := rfl
  rw [hnone] at happlied
  clear_value p
  obtain ⟨hcompose, horder⟩ := happlied
  refine ⟨hsilent, hapart, hblind, ?_, ?_⟩
  · have hassigned := (hcompose [first, second]).1
    rw [map_assigned_withoutDerived] at hassigned
    have hread := congrArg (List.map (·.value)) (hassigned.trans (congrArg _ hvalues))
    rw [List.map_map] at hread
    exact hread.trans (by decide +kernel)
  · exact (horder [first, second] [second, first] (List.Perm.swap _ _ _) hapart).2 hblind

end Panel

end LiveForm

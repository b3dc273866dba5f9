import LiveForm.Form.Snapshot
import Mathlib.Data.List.Nodup

/-!
# What evaluation leaves alone

Evaluation changes an element in four places: its value and the three that are derived. The rest of an
element is its **frame**, and what the lists of two states have in common is said by equations between
their frames. Such an equation fixes the number and the order of the elements, their ids, their hooks and
their ranges at once (`map_eq_of_frame`).

The frame is taken in two steps, since the two halves of a pass each leave more than the frame alone:
deriving leaves `withoutDerived`, reacting leaves `withoutValue`.
-/

namespace LiveForm

namespace Element

/-- An element with nothing derived of it. -/
def withoutDerived (e : Element) : Element :=
  { e with visible := true, disabled := false, dynamicOptions := none }

/-- An element with no value. -/
def withoutValue (e : Element) : Element := { e with value := .null }

/-- What evaluation leaves of an element. -/
def frame (e : Element) : Element := e.withoutDerived.withoutValue

@[simp] theorem frame_id (e : Element) : e.frame.id = e.id := rfl

@[simp] theorem frame_hooks (e : Element) : e.frame.hooks = e.hooks := rfl

theorem id_eq_of_frame {e e' : Element} (h : e.frame = e'.frame) : e.id = e'.id := by
  rw [← frame_id e, h, frame_id]

theorem hooks_eq_of_frame {e e' : Element} (h : e.frame = e'.frame) : e.hooks = e'.hooks := by
  rw [← frame_hooks e, h, frame_hooks]

end Element

/-! ## States with the same frames -/

variable {α : Type}

/-- Elements that have changed in their values only keep their frames. -/
theorem frames_eq_of_withoutValue {es es' : List Element}
    (h : es.map Element.withoutValue = es'.map Element.withoutValue) :
    es.map Element.frame = es'.map Element.frame := by
  have hframe := congrArg (List.map Element.withoutDerived) h
  rw [List.map_map, List.map_map] at hframe
  exact hframe

/-- So do elements that have changed only in what is derived. -/
theorem frames_eq_of_withoutDerived {es es' : List Element}
    (h : es.map Element.withoutDerived = es'.map Element.withoutDerived) :
    es.map Element.frame = es'.map Element.frame := by
  have hframe := congrArg (List.map Element.withoutValue) h
  rw [List.map_map, List.map_map] at hframe
  exact hframe

/-- Whatever is read off the frames of elements agrees on states with the same frames. -/
theorem map_eq_of_frame {es es' : List Element} (f : Element → α) (hf : ∀ e, f e.frame = f e)
    (h : es.map Element.frame = es'.map Element.frame) : es.map f = es'.map f := by
  have h' := congrArg (List.map f) h
  simpa only [List.map_map, Function.comp_def, hf] using h'

theorem ids_eq_of_frame {es es' : List Element}
    (h : es.map Element.frame = es'.map Element.frame) : es.map (·.id) = es'.map (·.id) :=
  map_eq_of_frame (·.id) Element.frame_id h

theorem length_eq_of_frame {es es' : List Element}
    (h : es.map Element.frame = es'.map Element.frame) : es.length = es'.length := by
  simpa only [List.length_map] using congrArg List.length h

/-- Every element of one state has a counterpart in the other. -/
theorem mem_of_frame {es es' : List Element} (h : es.map Element.frame = es'.map Element.frame)
    {e : Element} (he : e ∈ es) : ∃ e' ∈ es', e'.frame = e.frame := by
  have hmem : e.frame ∈ es'.map Element.frame := by
    rw [← h]
    exact List.mem_map_of_mem he
  exact List.mem_map.1 hmem

/-- Where there is only one frame, every element has it. -/
theorem hooks_of_frame_singleton {es : List Element} {e e' : Element}
    (h : es.map Element.frame = [e'].map Element.frame) (he : e ∈ es) : e.hooks = e'.hooks := by
  obtain ⟨e'', he'', hframe⟩ := mem_of_frame h he
  obtain rfl := List.mem_singleton.1 he''
  exact (Element.hooks_eq_of_frame hframe).symm

/-! ## Distinct ids -/

theorem Distinct.of_frame {es es' : List Element} (hd : Distinct es)
    (h : es'.map Element.frame = es.map Element.frame) : Distinct es' :=
  hd.of_ids (ids_eq_of_frame h)

/-- An id belongs to one element. -/
theorem Distinct.eq_of_id {es : List Element} (hd : Distinct es) {e e' : Element} (he : e ∈ es)
    (he' : e' ∈ es) (hid : e.id = e'.id) : e = e' :=
  List.inj_on_of_nodup_map hd he he' hid

/-- With distinct ids, looking up the place of an id finds the place of this element. -/
theorem Distinct.findIdx? {es : List Element} (hd : Distinct es) {place : Nat} {e : Element}
    (he : es[place]? = some e) : es.findIdx? (·.id == e.id) = some place := by
  obtain ⟨hlt, rfl⟩ := List.getElem?_eq_some_iff.1 he
  rw [List.findIdx?_eq_some_iff_getElem]
  refine ⟨hlt, beq_self_eq_true _, fun j hj hid => ?_⟩
  -- an earlier place has another id
  have hne := List.pairwise_iff_getElem.1 (List.pairwise_map.1 hd) j place (by omega) hlt hj
  exact hne (eq_of_beq hid)

/-- Neither does looking up the element of an id find another. -/
theorem Distinct.find? {es : List Element} (hd : Distinct es) {e : Element} (he : e ∈ es) :
    es.find? (·.id == e.id) = some e := by
  cases hfind : es.find? (·.id == e.id) with
  | none => exact absurd (beq_self_eq_true e.id) (List.find?_eq_none.1 hfind e he)
  | some found =>
    have hid := List.find?_some hfind
    rw [hd.eq_of_id (List.mem_of_find?_eq_some hfind) he (eq_of_beq hid)]

namespace Snapshot

/-- The id that is found is the first one to repeat an earlier one. -/
theorem firstDuplicate?_eq_some {es : List Element} {seen : List String} {id : String} :
    firstDuplicate? seen es = some id ↔
      ∃ front e rest, es = front ++ e :: rest ∧ Distinct front ∧ (∀ x ∈ front, x.id ∉ seen) ∧
        (e.id ∈ seen ∨ e.id ∈ front.map (·.id)) ∧ id = e.id := by
  induction es generalizing seen with
  | nil => simp [firstDuplicate?]
  | cons e es ih =>
    simp only [firstDuplicate?]
    split
    · next h =>
      have hmem : e.id ∈ seen := List.contains_iff_mem.1 h
      constructor
      · intro hid
        exact ⟨[], e, es, rfl, List.nodup_nil, fun _ hx => absurd hx List.not_mem_nil, .inl hmem,
          (Option.some.inj hid).symm⟩
      · rintro ⟨front, e', rest, hes, -, hfront, -, rfl⟩
        cases front with
        | nil => rw [(List.cons.inj hes).1]
        | cons x front =>
          obtain rfl : e = x := (List.cons.inj hes).1
          exact absurd hmem (hfront e List.mem_cons_self)
    · next h =>
      have hmem : e.id ∉ seen := fun hm => h (List.contains_iff_mem.2 hm)
      have hrepeats (front : List Element) (id : String) :
          (id ∈ e.id :: seen ∨ id ∈ front.map (·.id)) ↔
            (id ∈ seen ∨ id ∈ (e :: front).map (·.id)) := by
        rw [List.mem_cons, List.map_cons, List.mem_cons, or_assoc, or_left_comm]
      rw [ih]
      constructor
      · rintro ⟨front, e', rest, rfl, hd, hfront, hrepeat, rfl⟩
        refine ⟨e :: front, e', rest, rfl, ?_, ?_, (hrepeats front _).1 hrepeat, rfl⟩
        · refine List.nodup_cons.2 ⟨fun he => ?_, hd⟩
          obtain ⟨x, hx, hid⟩ := List.mem_map.1 he
          exact hfront x hx (List.mem_cons.2 (.inl hid))
        · exact List.forall_mem_cons.2 ⟨hmem, fun x hx hs => hfront x hx (List.mem_cons_of_mem _ hs)⟩
      · rintro ⟨front, e', rest, hes, hd, hfront, hrepeat, rfl⟩
        cases front with
        | nil =>
          obtain ⟨rfl, rfl⟩ := List.cons.inj hes
          exact absurd (hrepeat.resolve_right List.not_mem_nil) hmem
        | cons x front =>
          obtain ⟨rfl, rfl⟩ := List.cons.inj hes
          obtain ⟨hid, hd⟩ := List.nodup_cons.1 hd
          refine ⟨front, e', rest, rfl, hd, fun y hy hs => ?_, (hrepeats front _).2 hrepeat, rfl⟩
          rcases List.mem_cons.1 hs with hs | hs
          · exact hid (List.mem_map.2 ⟨y, hy, hs⟩)
          · exact hfront y (List.mem_cons_of_mem _ hy) hs

/-- A snapshot is built from elements as they are, if they are distinct. -/
theorem ofElements?_eq_ok {es : List Element} {initial : Values} {s : Snapshot} :
    ofElements? es initial = .ok s ↔ ∃ hd : Distinct es, s = ⟨es, initial, hd⟩ := by
  have hnone : firstDuplicate? [] es = none ↔ Distinct es := by
    simpa using @firstDuplicate?_eq_none es []
  unfold ofElements?
  split
  · next id h => simp [← hnone, h]
  · next h => simp [hnone.1 h, eq_comm]

/-- There is none just if an id is there twice, and the first such id is told. -/
theorem ofElements?_eq_error {es : List Element} {initial : Values} {id : String} :
    ofElements? es initial = .error id ↔ ∃ front e rest, es = front ++ e :: rest ∧ Distinct front ∧
      e.id ∈ front.map (·.id) ∧ id = e.id := by
  have hfirst : ofElements? es initial = .error id ↔ firstDuplicate? [] es = some id := by
    unfold ofElements?
    split
    · next found h => rw [h, Except.error.injEq, Option.some.injEq]
    · next h => simp [h]
  rw [hfirst, firstDuplicate?_eq_some]
  simp only [List.not_mem_nil, not_false_eq_true, implies_true, true_and, false_or]

theorem ofElements?_of_distinct {es : List Element} (hd : Distinct es) (initial : Values) :
    ofElements? es initial = .ok ⟨es, initial, hd⟩ := ofElements?_eq_ok.2 ⟨hd, rfl⟩

end Snapshot

end LiveForm

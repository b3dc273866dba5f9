import LiveForm.Proofs.Form.Frame
import LiveForm.Proofs.Json.Members

/-!
# Maps of values

A map of values holds each id once. So setting the elements of a snapshot to a map, which goes through the map value by
value, is the same as looking up every element in it (`setValues_eq_map`).
-/

namespace LiveForm

namespace Values

variable {values : Values} {id : String} {value : Json}

theorem lookup_ofList (pairs : List (String × Json)) (id : String) :
    (ofList pairs).lookup id = pairs.reverse.lookup id := Json.Members.lookup_ofList pairs id

/-- An element set to the value of its id in a map, and left as it is if there is none. -/
def assign (values : Values) (e : Element) : Element :=
  ((values.lookup e.id).map (Snapshot.withValueOf e)).getD e

theorem assign_of_lookup {e : Element} (h : values.lookup e.id = some value) :
    values.assign e = Snapshot.withValueOf e value := by
  rw [assign, h]
  rfl

theorem assign_of_lookup_none {e : Element} (h : values.lookup e.id = none) :
    values.assign e = e := by
  rw [assign, h]
  rfl

@[simp] theorem assign_id (values : Values) (e : Element) : (values.assign e).id = e.id := by
  cases h : values.lookup e.id with
  | none => rw [assign_of_lookup_none h]
  | some v => rw [assign_of_lookup h]; rfl

/-- Where a value is put in range does not hang on the value that was there. -/
theorem assign_assign (values : Values) (e : Element) :
    values.assign (values.assign e) = values.assign e := by
  cases h : values.lookup e.id with
  | none => rw [assign_of_lookup_none h, assign_of_lookup_none h]
  | some v =>
    rw [assign_of_lookup h]
    exact assign_of_lookup (e := Snapshot.withValueOf e v) h

/-- What is derived of an element plays no part in it. -/
theorem assign_withoutDerived (values : Values) (e : Element) :
    values.assign e.withoutDerived = (values.assign e).withoutDerived := by
  cases h : values.lookup e.id with
  | none =>
    rw [assign_of_lookup_none h]
    exact assign_of_lookup_none (e := e.withoutDerived) h
  | some v =>
    rw [assign_of_lookup h]
    exact assign_of_lookup (e := e.withoutDerived) h

end Values

namespace Snapshot

theorem assignEach_cons (s : Snapshot) (id : String) (v : Json) (edits : List (String × Json)) :
    s.assignEach ((id, v) :: edits) = (s.assignValue id v).assignEach edits := rfl

/-- Edits in the order of their ids set each element to the value that is under its id. -/
theorem assignEach_elements {edits : Json.Members} (h : edits.Ordered) (s : Snapshot) :
    (s.assignEach edits).elements =
      s.elements.map fun e => ((edits.lookup e.id).map (withValueOf e)).getD e := by
  induction edits generalizing s with
  | nil => exact (List.map_id s.elements).symm
  | cons first rest ih =>
    obtain ⟨id, v⟩ := first
    rw [assignEach_cons, ih (List.Pairwise.of_cons h), assignValue_elements, List.map_map]
    refine List.map_congr_left fun e _ => ?_
    simp only [Function.comp_apply, List.lookup_cons]
    cases hid : e.id == id with
    | true =>
      obtain rfl := eq_of_beq hid
      have hrest : rest.lookup (withValueOf e v).id = none := h.lookup_rest
      rw [if_pos rfl, hrest]
      rfl
    | false => rw [if_neg Bool.false_ne_true]

/-- **Setting values** sets each element to the value of its id. -/
theorem setValues_eq_map (s : Snapshot) (values : Values) :
    (s.setValues values).elements = s.elements.map values.assign :=
  assignEach_elements values.ordered s

end Snapshot

end LiveForm

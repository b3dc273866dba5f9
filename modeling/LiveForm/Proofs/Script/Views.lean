import LiveForm.Proofs.Json.Numbers
import LiveForm.Script.ElementView

/-!
# What comes back from a script

A JSON value that a script is given and leaves alone comes back as the script has seen it (`toJson?_ofJson`). It need
not be as it was written: an integer above the signed range is a float to scripts, and stays one (`Json.seen`). But it
is the same. Whoever reads the id and the value of a view that has not been touched gets the id of the element and a
value that is the same. An item with another value is an edit of the element whose id it has (`Element.edit?`).
-/

namespace LiveForm

/-! ## What scripts see of a number -/

namespace Number

/-- A number that scripts have a form for: a float, or an integer of the signed range. -/
def Signed : Number → Prop
  | .int i _ => i < 2 ^ 63
  | .real _ _ => True

instance : (n : Number) → Decidable n.Signed
  | .int _ _ => inferInstanceAs (Decidable (_ < _))
  | .real _ _ => inferInstanceAs (Decidable True)

/-- A number as a script sees it: an integer above the signed range is the nearest float. -/
def seen : Number → Number
  | .int i h => if i < 2 ^ 63 then .int i h else .real (Number.int i h).toFloat (isFinite_toFloat _)
  | .real x h => .real x h

theorem seen_eq_self {n : Number} : n.seen = n ↔ n.Signed := by
  cases n with
  | int i h =>
    rw [seen, Signed]
    by_cases hi : i < 2 ^ 63
    · rw [if_pos hi]
      exact iff_of_true rfl hi
    · rw [if_neg hi]
      simp only [reduceCtorEq, hi]
  | real x h => exact iff_of_true rfl trivial

theorem same_seen (n : Number) : n.same n.seen = true := by
  cases n with
  | int i h =>
    rw [seen]
    split
    · exact same_refl _
    · exact same_refl (.int i h)
  | real x h => exact same_refl _

end Number

/-- A value as a script sees it, and as it comes back. -/
def Json.seen (v : Json) : Json := v.mapNumbers Number.seen

theorem Json.same_seen (v : Json) : v.same v.seen = true := same_mapNumbers Number.same_seen v

/-- A value is seen as it is just if its integers are in the signed range. -/
theorem Json.seen_eq_self {v : Json} : v.seen = v ↔ v.Each Number.Signed := by
  simp only [seen, mapNumbers_eq_self, Number.seen_eq_self]

/-- The greatest integer of a number. -/
def Json.greatest : Json := .int 18446744073709551615

/-- It is above the signed range, and so is seen as another value. -/
theorem Json.seen_greatest : greatest.seen = .ofFloat 18446744073709551616 ∧ greatest.seen ≠ greatest := by
  decide +kernel

namespace Script

namespace Value

/-- An integer in the range of scripts comes back as it was. -/
theorem jsonOfInt_ofInt {i : Int} (h : InWordRange i) (hi : i < 2 ^ 63) :
    jsonOfInt (Int64.ofInt i) = .num (.int i h) := by
  have hword : (Int64.ofInt i).toInt = i := Int64.toInt_ofInt_of_le h.1 hi
  simp only [jsonOfInt, Number.ofInt?, hword, dif_pos h]

theorem toJson?_ofJson_num (n : Number) : (ofJson (.num n)).toJson? = .ok (.num n.seen) := by
  cases n with
  | real x h => simp only [ofJson, toJson?, Json.ofFloat_of_isFinite h, Number.seen]
  | int i h =>
    by_cases hi : i < 2 ^ 63
    · simp only [ofJson, if_pos hi, toJson?, jsonOfInt_ofInt h hi, Number.seen]
    · -- above the signed range: the nearest float, which is finite
      have hfinite := (Number.int i h).isFinite_toFloat
      simp only [ofJson, if_neg hi, toJson?, Json.ofFloat_of_isFinite hfinite, Number.seen]

theorem toItems?_ofItems {vs : List Json} {g : Json → Json} (h : ∀ v ∈ vs, (ofJson v).toJson? = .ok (g v)) :
    toItems? (ofItems vs) = .ok (vs.map g) := by
  induction vs with
  | nil => rfl
  | cons v vs ih =>
    obtain ⟨hv, hvs⟩ := List.forall_mem_cons.1 h
    rw [ofItems, toItems?, hv, ih hvs]
    rfl

theorem toMemberList?_ofMemberList {ms : List (String × Json)} {g : Json → Json}
    (h : ∀ m ∈ ms, (ofJson m.2).toJson? = .ok (g m.2)) :
    toMemberList? (ofMemberList ms) = .ok (ms.map fun m => (m.1, g m.2)) := by
  induction ms with
  | nil => rfl
  | cons m ms ih =>
    obtain ⟨hm, hms⟩ := List.forall_mem_cons.1 h
    rw [ofMemberList, toMemberList?, hm, ih hms]
    rfl

/-- **Values come back as they were seen.** -/
theorem toJson?_ofJson (v : Json) : (ofJson v).toJson? = .ok v.seen := by
  induction v using Json.induction with
  | null => rfl
  | bool b => rfl
  | num n => exact toJson?_ofJson_num n
  | str s => rfl
  | arr vs ih =>
    rw [ofJson, toJson?, toItems?_ofItems ih, Json.seen, Json.mapNumbers_arr]
    rfl
  | obj ms ih =>
    rw [ofJson, toJson?, toMemberList?_ofMemberList ih, Json.seen, Json.mapNumbers_obj]
    rfl

end Value

/-! ## Views of elements -/

@[simp] theorem viewId?_elementView (e : Element) : (elementView e).viewId? = some e.id := rfl

/-- The view at a place is that of the element there. -/
theorem getElem?_elementViews {es : List Element} {place : Nat} {e : Element} (he : es[place]? = some e) :
    (elementViews es)[place]? = some (elementView e) := by
  rw [elementViews, List.getElem?_map, he, Option.map_some]

/-- The value in the view of an element is that of the element, as scripts see it. -/
theorem viewValue?_elementView_eq (e : Element) : (elementView e).viewValue? = some e.value.seen := by
  have hvalue : (elementView e).member? "value" = some (Value.ofJson e.value) := rfl
  rw [Value.viewValue?, hvalue, Option.bind_some, Value.toJson?_ofJson]
  rfl

theorem viewValue?_elementView (e : Element) :
    ∃ w, (elementView e).viewValue? = some w ∧ e.value.same w = true :=
  ⟨_, viewValue?_elementView_eq e, e.value.same_seen⟩

/-- It stands for that of the element in comparisons. -/
theorem same_viewValue? (e : Element) (v : Json) :
    ((elementView e).viewValue?.getD .null).same v = e.value.same v := by
  obtain ⟨w, hw, hs⟩ := viewValue?_elementView e
  rw [hw, Option.getD_some, Bool.eq_iff_iff]
  exact ⟨Json.same_trans hs, Json.same_trans (Json.same_symm hs)⟩

end Script

/-! ## Edits

Whoever reads an array of views after a run takes an item for an edit of an element by the id it has then. -/

/-- The value that an item wants an element to have, if it is an edit of it. -/
def Element.edit? (e : Element) (item : Script.Value) : Option Json :=
  if item.viewId? = some e.id then item.viewValue?.filter fun v => !e.value.same v else none

/-- The values that the items of an array want an element to have, in the order of the items. -/
def Element.edits (items : List Script.Value) (e : Element) : List Json := items.filterMap e.edit?

end LiveForm

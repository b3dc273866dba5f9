import LiveForm.Proofs.Evaluation.React
import LiveForm.Proofs.Script.Views

/-!
# What a run writes

A hook that leaves its copies of the elements and of its own element alone writes its result and nothing
else (`collectWrites_untouched`). Its copies come back the same, which is no edit, and distinct ids see to
it that every copy is held against its own original.
-/

namespace LiveForm

namespace Evaluation

/-- Views that have not been touched are no edits. -/
theorem editWrites_views {es : List Element} (hd : Distinct es) :
    editWrites es (Script.elementViews es) (Script.elementViews es) = [] := by
  rw [editWrites, List.filterMap_eq_nil_iff]
  intro view hview
  obtain ⟨e, he, rfl⟩ := List.mem_map.1 hview
  obtain ⟨place, hplace⟩ := List.mem_iff_getElem?.1 he
  obtain ⟨w, hw, -⟩ := Script.viewValue?_elementView e
  have hbefore := Script.getElem?_elementViews hplace
  simp only [Script.viewId?_elementView, hw, hd.findIdx? hplace, hbefore, Option.bind_eq_bind,
    Option.bind_some, Option.getD_some, if_pos (Json.same_refl w)]

/-- The own view is no edit either. -/
theorem ownWrites_view (own : Nat) (e : Element) : ownWrites own e (Script.elementView e) = [] := by
  obtain ⟨w, hw, hs⟩ := Script.viewValue?_elementView e
  simp only [ownWrites, hw, if_pos hs]

/-- **A hook that touches nothing writes its result**, and not even that if it is `null`. -/
theorem collectWrites_untouched {es : List Element} (hd : Distinct es) {own : Nat} {e : Element}
    (he : es[own]? = some e) {i : Invocation}
    (helements : i.value? "elements" = some (.array (Script.elementViews es)))
    (helement : i.value? "element" = some (Script.elementView e)) {result : Json}
    (hresult : i.json? = .ok result) :
    collectWrites es (Script.elementViews es) own i =
      .ok (if result = .null then [] else [⟨own, result⟩]) := by
  simp only [collectWrites, helements, helement, he, editWrites_views hd, ownWrites_view, hresult]
  rfl

end Evaluation

end LiveForm

import LiveForm.Proofs.Json.Agreement

/-!
# Values with other numbers

The numbers in a value are replaced, at any depth, and all else is left as it is (`Json.mapNumbers`). Nothing has
changed just if no number has (`mapNumbers_eq_self`), and if every number is the same as the one it stands for, so is
the value (`same_mapNumbers`).
-/

namespace LiveForm.Json

mutual

/-- A value with its numbers replaced. -/
def mapNumbers (f : Number → Number) : Json → Json
  | .num n => .num (f n)
  | .arr items => .arr (mapItems f items)
  | .obj members => .obj (mapMembers f members)
  | .null => .null
  | .bool b => .bool b
  | .str s => .str s

def mapItems (f : Number → Number) : List Json → List Json
  | [] => []
  | v :: vs => mapNumbers f v :: mapItems f vs

def mapMembers (f : Number → Number) : List (String × Json) → List (String × Json)
  | [] => []
  | (k, v) :: ms => (k, mapNumbers f v) :: mapMembers f ms

end

variable {f : Number → Number}

theorem mapItems_eq_map (f : Number → Number) (vs : List Json) : mapItems f vs = vs.map (mapNumbers f) := by
  induction vs with
  | nil => rfl
  | cons v vs ih => rw [mapItems, ih, List.map_cons]

theorem mapMembers_eq_map (f : Number → Number) (ms : List (String × Json)) :
    mapMembers f ms = ms.map fun m => (m.1, m.2.mapNumbers f) := by
  induction ms with
  | nil => rfl
  | cons m ms ih => rw [mapMembers, ih, List.map_cons]

theorem mapNumbers_arr (f : Number → Number) (vs : List Json) :
    mapNumbers f (.arr vs) = .arr (vs.map (mapNumbers f)) := by
  rw [mapNumbers, mapItems_eq_map]

theorem mapNumbers_obj (f : Number → Number) (ms : List (String × Json)) :
    mapNumbers f (.obj ms) = .obj (ms.map fun m => (m.1, m.2.mapNumbers f)) := by
  rw [mapNumbers, mapMembers_eq_map]

/-! ## Numbers that are kept -/

section

variable {p : Number → Prop}

theorem each_num {n : Number} : Each p (.num n) ↔ p n := by
  refine ⟨?_, .num⟩
  rintro (⟨⟩ | ⟨⟩ | h)
  exact h

theorem each_arr {vs : List Json} : Each p (.arr vs) ↔ ∀ v ∈ vs, Each p v := by
  refine ⟨fun h => ?_, .arr⟩
  cases h with
  | arr each => exact each

theorem each_obj {ms : Members} : Each p (.obj ms) ↔ ∀ m ∈ ms, Each p m.2 := by
  refine ⟨fun h => ?_, .obj⟩
  cases h with
  | obj each => exact each

end

theorem map_eq_self {α : Type} {g : α → α} {l : List α} : l.map g = l ↔ ∀ a ∈ l, g a = a := by
  have hid := List.map_inj_left (f := g) (g := id) (l := l)
  rwa [List.map_id] at hid

/-- **Nothing has changed** just if no number has. -/
theorem mapNumbers_eq_self {v : Json} : v.mapNumbers f = v ↔ v.Each fun n => f n = n := by
  induction v using induction with
  | null => exact iff_of_true rfl .null
  | bool b => exact iff_of_true rfl (.bool b)
  | num n => rw [mapNumbers, num.injEq, each_num]
  | str s => exact iff_of_true rfl (.str s)
  | arr vs ih =>
    rw [mapNumbers_arr, arr.injEq, map_eq_self, each_arr]
    exact forall₂_congr ih
  | obj ms ih =>
    rw [mapNumbers_obj, obj.injEq, map_eq_self, each_obj]
    exact forall₂_congr fun m hm => by rw [← ih m hm, Prod.ext_iff, eq_self, true_and]

/-! ## Numbers that stay the same -/

section

variable {eq : Number → Number → Bool} {g : Json → Json}

theorem sameItems_map {vs : List Json} (h : ∀ v ∈ vs, sameBy eq v (g v) = true) :
    sameItems eq vs (vs.map g) = true := by
  induction vs with
  | nil => rfl
  | cons v vs ih =>
    obtain ⟨hv, hvs⟩ := List.forall_mem_cons.1 h
    exact sameItems_cons.2 ⟨_, _, rfl, hv, ih hvs⟩

theorem sameMembers_map {ms : List (String × Json)} (h : ∀ m ∈ ms, sameBy eq m.2 (g m.2) = true) :
    sameMembers eq ms (ms.map fun m => (m.1, g m.2)) = true := by
  induction ms with
  | nil => rfl
  | cons m ms ih =>
    obtain ⟨hm, hms⟩ := List.forall_mem_cons.1 h
    exact sameMembers_cons.2 ⟨_, _, rfl, hm, ih hms⟩

end

/-- **Numbers that stay the same** leave the value the same. -/
theorem same_mapNumbers (h : ∀ n : Number, n.same (f n) = true) (v : Json) : v.same (v.mapNumbers f) = true := by
  induction v using induction with
  | null => exact same_refl _
  | bool b => exact same_refl _
  | num n => exact sameBy_num.2 ⟨_, rfl, h n⟩
  | str s => exact same_refl _
  | arr vs ih =>
    rw [mapNumbers_arr]
    exact sameBy_arr.2 ⟨_, rfl, sameItems_map ih⟩
  | obj ms ih =>
    rw [mapNumbers_obj]
    exact sameBy_obj.2 ⟨_, rfl, sameMembers_map ih⟩

end LiveForm.Json

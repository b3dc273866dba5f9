import LiveForm.Proofs.Json.Number
import LiveForm.Proofs.Json.Members
import LiveForm.Proofs.Json.Same

/-!
# Values that agree

Two values agree when they have one structure and their numbers agree in it: arrays item by item, objects member
by member under the same keys, whatever the order their members are listed in (`Json.Agrees`). Comparing values
decides this (`sameBy_iff_agrees`) where the members of all objects are listed in the order of their keys
(`Json.WellFormed`), as they are in whatever is read or built; such values are tidy (`Json.Tidy`). Objects can be
compared in another way, which looks for each member of the one under its key in the other: if there are as many
members, none can be left over (`sameMembers_iff_contained`).

What counts as agreement of numbers is what is left to say. Values are the same just if their numbers are rounded
alike. So values that denote the same are the same, and where no number needs rounding the converse holds
(`same_up_to_rounding`). Integers with more than 53 binary digits are not told apart from their neighbours
(`same_of_rounding`).
-/

namespace LiveForm

namespace Json

/-! ## Structure -/

/-- What holds of the items of arrays and the members of objects first, and then of these. -/
@[elab_as_elim]
theorem induction {motive : Json → Prop} (null : motive .null) (bool : ∀ b, motive (.bool b))
    (num : ∀ n, motive (.num n)) (str : ∀ s, motive (.str s))
    (arr : ∀ items, (∀ v ∈ items, motive v) → motive (.arr items))
    (obj : ∀ members, (∀ m ∈ members, motive m.2) → motive (.obj members)) (v : Json) : motive v :=
  @Json.rec motive (fun vs => ∀ v ∈ vs, motive v) (fun ms => ∀ m ∈ ms, motive m.2) (fun m => motive m.2)
    null bool num str arr obj
    nofun (fun _ _ hv hvs => List.forall_mem_cons.2 ⟨hv, hvs⟩)
    nofun (fun _ _ hm hms => List.forall_mem_cons.2 ⟨hm, hms⟩)
    (fun _ _ hv => hv) v

/-- The members of every object in a value are in order. -/
inductive WellFormed : Json → Prop
  | null : WellFormed .null
  | bool (b : Bool) : WellFormed (.bool b)
  | num (n : Number) : WellFormed (.num n)
  | str (s : String) : WellFormed (.str s)
  | arr {items : List Json} (each : ∀ v ∈ items, WellFormed v) : WellFormed (.arr items)
  | obj {members : Members} (ordered : members.Ordered) (each : ∀ m ∈ members, WellFormed m.2) :
    WellFormed (.obj members)

/-- A value that is well-formed. -/
abbrev Tidy := {v : Json // v.WellFormed}

/-- Every number in a value has a property. -/
inductive Each (p : Number → Prop) : Json → Prop
  | null : Each p .null
  | bool (b : Bool) : Each p (.bool b)
  | num {n : Number} (h : p n) : Each p (.num n)
  | str (s : String) : Each p (.str s)
  | arr {items : List Json} (each : ∀ v ∈ items, Each p v) : Each p (.arr items)
  | obj {members : Members} (each : ∀ m ∈ members, Each p m.2) : Each p (.obj members)

/-- Two values have one structure, and their numbers agree in it. -/
inductive Agrees (eq : Number → Number → Prop) : Json → Json → Prop
  | null : Agrees eq .null .null
  | bool (b : Bool) : Agrees eq (.bool b) (.bool b)
  | num {m n : Number} (h : eq m n) : Agrees eq (.num m) (.num n)
  | str (s : String) : Agrees eq (.str s) (.str s)
  | arr {vs ws : List Json} (length : vs.length = ws.length)
    (items : ∀ (i : Nat) (v w : Json), vs[i]? = some v → ws[i]? = some w → Agrees eq v w) :
    Agrees eq (.arr vs) (.arr ws)
  | obj {ms ns : Members} (keys : ∀ k, k ∈ ms.map (·.1) ↔ k ∈ ns.map (·.1))
    (members : ∀ k v w, ms.lookup k = some v → ns.lookup k = some w → Agrees eq v w) :
    Agrees eq (.obj ms) (.obj ns)

/-- Numbers that agree in one way may agree in another, if they are of a kind for which it follows. -/
theorem Agrees.imp {eq eq' : Number → Number → Prop} {p : Number → Prop}
    (himp : ∀ m n, p m → p n → eq m n → eq' m n) {v w : Json} (h : v.Agrees eq w) (hv : v.Each p)
    (hw : w.Each p) : v.Agrees eq' w := by
  induction h with
  | null => exact .null
  | bool b => exact .bool b
  | num h =>
    obtain ⟨⟩ | ⟨⟩ | hm := hv
    obtain ⟨⟩ | ⟨⟩ | hn := hw
    exact .num (himp _ _ hm hn h)
  | str s => exact .str s
  | arr hlength hitems ih =>
    cases hv with
    | arr hvs =>
      cases hw with
      | arr hws =>
        exact .arr hlength fun i v w hv hw =>
          ih i v w hv hw (hvs v (List.mem_of_getElem? hv)) (hws w (List.mem_of_getElem? hw))
  | obj hkeys hmembers ih =>
    cases hv with
    | obj hms =>
      cases hw with
      | obj hns =>
        exact .obj hkeys fun k v w hv hw =>
          ih k v w hv hw (hms _ (Members.mem_of_lookup hv)) (hns _ (Members.mem_of_lookup hw))

/-! ## What a value can agree with -/

section

variable {eq : Number → Number → Prop} {w : Json}

theorem agrees_null : Agrees eq .null w ↔ w = .null := by
  constructor
  · rintro ⟨⟩
    rfl
  · rintro rfl
    exact .null

theorem agrees_bool {b : Bool} : Agrees eq (.bool b) w ↔ w = .bool b := by
  constructor
  · rintro ⟨⟩
    rfl
  · rintro rfl
    exact .bool b

theorem agrees_num {n : Number} : Agrees eq (.num n) w ↔ ∃ m, w = .num m ∧ eq n m := by
  constructor
  · rintro (⟨⟩ | ⟨⟩ | h)
    exact ⟨_, rfl, h⟩
  · rintro ⟨m, rfl, h⟩
    exact .num h

theorem agrees_str {s : String} : Agrees eq (.str s) w ↔ w = .str s := by
  constructor
  · rintro ⟨⟩
    rfl
  · rintro rfl
    exact .str s

theorem agrees_arr {vs : List Json} :
    Agrees eq (.arr vs) w ↔ ∃ ws, w = .arr ws ∧ vs.length = ws.length ∧
      ∀ (i : Nat) (v w : Json), vs[i]? = some v → ws[i]? = some w → Agrees eq v w := by
  constructor
  · intro h
    cases h with
    | arr hlength hitems => exact ⟨_, rfl, hlength, hitems⟩
  · rintro ⟨ws, rfl, hlength, hitems⟩
    exact .arr hlength hitems

theorem agrees_obj {ms : Members} :
    Agrees eq (.obj ms) w ↔ ∃ ns, w = .obj ns ∧ (∀ k, k ∈ ms.map (·.1) ↔ k ∈ ns.map (·.1)) ∧
      ∀ k v w, ms.lookup k = some v → ns.lookup k = some w → Agrees eq v w := by
  constructor
  · intro h
    cases h with
    | obj hkeys hmembers => exact ⟨_, rfl, hkeys, hmembers⟩
  · rintro ⟨ns, rfl, hkeys, hmembers⟩
    exact .obj hkeys hmembers

end

/-! ## Comparing objects -/

section

variable {eq : Number → Number → Bool} {ms ns : Members}

theorem sameMembers_keys (h : sameMembers eq ms ns = true) : ms.map (·.1) = ns.map (·.1) := by
  induction ms generalizing ns with
  | nil => rw [sameMembers_nil.1 h]
  | cons m ms ih =>
    obtain ⟨k, v⟩ := m
    obtain ⟨u, us, rfl, -, hs⟩ := sameMembers_cons.1 h
    rw [List.map_cons, List.map_cons, ih hs]

theorem sameMembers_of_keys (hms : ms.Ordered) (hkeys : ms.map (·.1) = ns.map (·.1))
    (h : ∀ m ∈ ms, ∃ v, ns.lookup m.1 = some v ∧ sameBy eq m.2 v = true) :
    sameMembers eq ms ns = true := by
  induction ms generalizing ns with
  | nil => exact sameMembers_nil.2 (List.map_eq_nil_iff.1 hkeys.symm)
  | cons m ms ih =>
    obtain ⟨k, v⟩ := m
    obtain ⟨n, rest, rfl, hkey, hrest⟩ := List.map_eq_cons_iff.1 hkeys.symm
    obtain ⟨l, u⟩ := n
    obtain rfl : l = k := hkey
    obtain ⟨w, hw, hsame⟩ := h _ List.mem_cons_self
    obtain rfl : u = w := Option.some.inj (List.lookup_cons_self.symm.trans hw)
    refine sameMembers_cons.2 ⟨u, rest, rfl, hsame, ih (List.Pairwise.of_cons hms) hrest.symm fun m hm => ?_⟩
    obtain ⟨w, hw, hsame⟩ := h m (List.mem_cons_of_mem _ hm)
    rw [hms.lookup_behind hm] at hw
    exact ⟨w, hw, hsame⟩

theorem contained_of_sameMembers (hms : ms.Ordered) (h : sameMembers eq ms ns = true) :
    ∀ m ∈ ms, ∃ v, ns.lookup m.1 = some v ∧ sameBy eq m.2 v = true := by
  induction ms generalizing ns with
  | nil => exact nofun
  | cons m ms ih =>
    obtain ⟨k, v⟩ := m
    obtain ⟨u, us, rfl, hv, hs⟩ := sameMembers_cons.1 h
    intro m hm
    rcases List.mem_cons.1 hm with rfl | hm
    · exact ⟨u, List.lookup_cons_self, hv⟩
    · rw [hms.lookup_behind hm]
      exact ih (List.Pairwise.of_cons hms) hs m hm

/-- **Containment is enough.** Objects are the same if they have as many members, and each member of the one is
the same as what the other has under its key. -/
theorem sameMembers_iff_contained (hms : ms.Ordered) (hns : ns.Ordered) :
    sameMembers eq ms ns = true ↔ ms.length = ns.length ∧
      ∀ m ∈ ms, ∃ v, ns.lookup m.1 = some v ∧ sameBy eq m.2 v = true := by
  constructor
  · intro h
    have hlength := congrArg List.length (sameMembers_keys h)
    rw [List.length_map, List.length_map] at hlength
    exact ⟨hlength, contained_of_sameMembers hms h⟩
  · rintro ⟨hlength, h⟩
    refine sameMembers_of_keys hms (hms.keys_eq hns hlength fun k hk => ?_) h
    obtain ⟨m, hm, rfl⟩ := List.mem_map.1 hk
    obtain ⟨v, hv, -⟩ := h m hm
    exact Members.lookup_isSome.1 (by rw [hv]; rfl)

/-- Said without a direction: objects are the same if they have the same keys, and the same under each. -/
theorem sameMembers_iff_lookup (hms : ms.Ordered) (hns : ns.Ordered) :
    sameMembers eq ms ns = true ↔ (∀ k, k ∈ ms.map (·.1) ↔ k ∈ ns.map (·.1)) ∧
      ∀ k v w, ms.lookup k = some v → ns.lookup k = some w → sameBy eq v w = true := by
  constructor
  · intro h
    refine ⟨fun k => by rw [sameMembers_keys h], fun k v w hv hw => ?_⟩
    obtain ⟨u, hu, hsame⟩ := contained_of_sameMembers hms h _ (Members.mem_of_lookup hv)
    obtain rfl : w = u := Option.some.inj (hw.symm.trans hu)
    exact hsame
  · rintro ⟨hkeys, h⟩
    have hperm : (ms.map (·.1)).Perm (ns.map (·.1)) :=
      (List.perm_ext_iff_of_nodup hms.nodup_keys hns.nodup_keys).2 hkeys
    have hlength := hperm.length_eq
    rw [List.length_map, List.length_map] at hlength
    refine (sameMembers_iff_contained hms hns).2 ⟨hlength, fun m hm => ?_⟩
    obtain ⟨v, hv⟩ := Option.isSome_iff_exists.1 (Members.lookup_isSome.2 ((hkeys m.1).1 (List.mem_map_of_mem hm)))
    exact ⟨v, hv, h m.1 m.2 v (hms.lookup_of_mem hm) hv⟩

end

/-! ## Comparing values -/

variable {eq : Number → Number → Bool}

theorem sameItems_iff {vs ws : List Json} :
    sameItems eq vs ws = true ↔ vs.length = ws.length ∧
      ∀ (i : Nat) (v w : Json), vs[i]? = some v → ws[i]? = some w → sameBy eq v w = true := by
  induction vs generalizing ws with
  | nil =>
    rw [sameItems_nil, List.length_nil, eq_comm (a := 0), List.length_eq_zero_iff]
    exact ⟨fun h => ⟨h, nofun⟩, fun h => h.1⟩
  | cons v vs ih =>
    rw [sameItems_cons]
    constructor
    · rintro ⟨u, us, rfl, hu, hs⟩
      obtain ⟨hlength, hitems⟩ := ih.1 hs
      refine ⟨congrArg (· + 1) hlength, fun i a b ha hb => ?_⟩
      cases i with
      | zero =>
        obtain rfl := Option.some.inj ha
        obtain rfl := Option.some.inj hb
        exact hu
      | succ i => exact hitems i a b ha hb
    · rintro ⟨hlength, hitems⟩
      obtain ⟨u, us, rfl⟩ := List.exists_cons_of_length_eq_add_one hlength.symm
      refine ⟨u, us, rfl, hitems 0 v u rfl rfl, ih.2 ⟨Nat.succ.inj hlength, fun i a b ha hb => ?_⟩⟩
      exact hitems (i + 1) a b ha hb

/-- **Comparing decides agreement** of well-formed values. -/
theorem sameBy_iff_agrees {v w : Json} (hv : v.WellFormed) (hw : w.WellFormed) :
    sameBy eq v w = true ↔ v.Agrees (fun m n => eq m n = true) w := by
  induction v using Json.induction generalizing w with
  | null => rw [sameBy_null, agrees_null]
  | bool b => rw [sameBy_bool, agrees_bool]
  | num n => rw [sameBy_num, agrees_num]
  | str s => rw [sameBy_str, agrees_str]
  | arr vs ih =>
    cases hv with
    | arr hvs =>
      rw [sameBy_arr, agrees_arr]
      refine exists_congr fun ws => and_congr_right ?_
      rintro rfl
      cases hw with
      | arr hws =>
        rw [sameItems_iff]
        refine and_congr_right fun _ => forall₅_congr fun i a b ha hb => ?_
        have hmem := List.mem_of_getElem? ha
        exact ih a hmem (hvs a hmem) (hws b (List.mem_of_getElem? hb))
  | obj ms ih =>
    cases hv with
    | obj hms hvs =>
      rw [sameBy_obj, agrees_obj]
      refine exists_congr fun ns => and_congr_right ?_
      rintro rfl
      cases hw with
      | obj hns hws =>
        rw [sameMembers_iff_lookup hms hns]
        refine and_congr_right fun _ => forall₅_congr fun k a b ha hb => ?_
        have hmem := Members.mem_of_lookup ha
        exact ih _ hmem (hvs _ hmem) (hws _ (Members.mem_of_lookup hb))

/-- Values are the same just if they agree up to rounding. -/
theorem same_iff_agrees (v w : Tidy) :
    v.1.same w.1 = true ↔ v.1.Agrees (fun m n => m.rounded = n.rounded) w.1 := by
  rw [same, sameBy_iff_agrees v.2 w.2]
  simp only [Number.same_iff_rounded]

/-- Numbers that need no rounding, rounded alike, denote the same. -/
theorem Agrees.of_rounded {v w : Json} (h : v.Agrees (fun m n => m.rounded = n.rounded) w)
    (hv : v.Each Number.Exact) (hw : w.Each Number.Exact) : v.Agrees (fun m n => m.value = n.value) w :=
  h.imp (fun m n hm hn heq => by rw [← hm, ← hn, heq]) hv hw

theorem each_true (v : Json) : v.Each fun _ => True := by
  induction v using Json.induction with
  | null => exact .null
  | bool b => exact .bool b
  | num n => exact .num trivial
  | str s => exact .str s
  | arr vs ih => exact .arr ih
  | obj ms ih => exact .obj ih

/-- What denotes the same is rounded alike. -/
theorem Agrees.rounded {v w : Json} (h : v.Agrees (fun m n => m.value = n.value) w) :
    v.Agrees (fun m n => m.rounded = n.rounded) w :=
  h.imp (fun _ _ _ _ heq => Number.rounded_eq_of_value_eq heq) v.each_true w.each_true

/-- **Sameness is agreement up to rounding.** Two values are the same just if they have one structure and their
numbers, integers rounded to 53 binary digits, are equal in it. So values that have one structure and denote the
same numbers in it are the same. Where no number needs rounding, which holds of all floats and of the integers
up to `2 ^ 53` at least, values are the same only if they do. Integers that are the same are within 2048 of each
other. -/
theorem same_up_to_rounding (v w : Tidy) :
    (v.1.same w.1 = true ↔ v.1.Agrees (fun m n => m.rounded = n.rounded) w.1) ∧
      (v.1.Agrees (fun m n => m.value = n.value) w.1 → v.1.same w.1 = true) ∧
      (v.1.Each Number.Exact → w.1.Each Number.Exact →
        (v.1.same w.1 = true ↔ v.1.Agrees (fun m n => m.value = n.value) w.1)) ∧
      (∀ x h, (Number.real x h).Exact) ∧
      (∀ n h, n.natAbs ≤ 2 ^ 53 → (Number.int n h).Exact) ∧
      ∀ m n hm hn, (Json.num (.int m hm)).same (.num (.int n hn)) = true → |m - n| ≤ 2048 := by
  have hsame := same_iff_agrees v w
  refine ⟨hsame, fun h => hsame.2 h.rounded, fun hexact hexact' => ?_, fun _ _ => rfl,
    fun _ h hle => Number.exact_of_natAbs_le h hle, fun m n hm hn h => ?_⟩
  · constructor
    · intro h
      exact (hsame.1 h).of_rounded hexact hexact'
    · intro h
      exact hsame.2 h.rounded
  · rw [same, sameBy] at h
    exact Number.dist_le_of_same h

/-- One object with its number written in two ways. -/
theorem same_up_to_rounding_spellings :
    let v : Json := .obj [("a", .int 3), ("b", .arr [.null])]
    let w : Json := .obj [("a", .ofFloat 3.0), ("b", .arr [.null])]
    v.WellFormed ∧ w.WellFormed ∧ v ≠ w ∧ v.Agrees (fun m n => m.value = n.value) w := by
  have hitems : ∀ v ∈ [Json.null], v.WellFormed := by
    rintro v (_ | ⟨_, ⟨⟩⟩)
    exact .null
  have hnull : ∀ v ∈ [Json.null], v.Each Number.Exact := by
    rintro v (_ | ⟨_, ⟨⟩⟩)
    exact .null
  have hv : WellFormed (.obj [("a", .int 3), ("b", .arr [.null])]) := by
    refine .obj (by decide) (List.forall_mem_cons.2 ⟨.num _, List.forall_mem_cons.2 ⟨.arr hitems, nofun⟩⟩)
  have hw : WellFormed (.obj [("a", .ofFloat 3.0), ("b", .arr [.null])]) := by
    refine .obj (by decide) (List.forall_mem_cons.2 ⟨.num _, List.forall_mem_cons.2 ⟨.arr hitems, nofun⟩⟩)
  obtain ⟨-, -, hexact, hreal, hint, -⟩ := same_up_to_rounding ⟨_, hv⟩ ⟨_, hw⟩
  have hsame : (Json.obj [("a", .int 3), ("b", .arr [.null])]).same
      (.obj [("a", .ofFloat 3.0), ("b", .arr [.null])]) = true := by decide
  refine ⟨hv, hw, by decide, (hexact ?_ ?_).1 hsame⟩
  · exact .obj (List.forall_mem_cons.2 ⟨.num (hint 3 _ (by decide)), List.forall_mem_cons.2 ⟨.arr hnull, nofun⟩⟩)
  · exact .obj (List.forall_mem_cons.2 ⟨.num (hreal 3.0 _), List.forall_mem_cons.2 ⟨.arr hnull, nofun⟩⟩)

/-- **Integers that are not told apart**: they differ in the last of 54 binary digits. -/
theorem same_of_rounding :
    let m : Json := .int 9007199254740992
    let n : Json := .int 9007199254740993
    m.WellFormed ∧ n.WellFormed ∧ m.same n = true ∧ ¬m.Agrees (fun m n => m.value = n.value) n := by
  refine ⟨.num _, .num _, by decide, ?_⟩
  intro h
  cases h with
  | num heq => exact absurd (Int.cast_inj.1 heq) (by decide)

end Json

end LiveForm

import LiveForm.Proofs.Decimal.Exact
import LiveForm.Json.Same

/-!
# Sameness is an equivalence

Values that are the same up to the spelling of numbers form classes: `Json.same` is reflexive, symmetric
and transitive. It inherits this from the comparison of numbers, which goes through the nearest float, and
the float of a number is finite. Whoever follows a form by its differences lives on transitivity,
since a difference leaves out values that are the same.

Each law is proved for `Json.sameBy` from the law of its numbers, by recursion on values.
-/

namespace LiveForm

namespace Number

theorem same_refl (n : Number) : n.same n = true :=
  Place.beq_self (Place.unpack_ne_nan_of_isFinite n.isFinite_toFloat)

theorem alike_refl (n : Number) : n.alike n = true := by
  cases n with
  | int n h => exact beq_self_eq_true n
  | real x h => exact Place.beq_self (Place.unpack_ne_nan_of_isFinite h)

theorem same_symm {a b : Number} (h : a.same b = true) : b.same a = true := Place.beq_symm h

theorem alike_symm {a b : Number} (h : a.alike b = true) : b.alike a = true := by
  cases a with
  | int m hm =>
    cases b with
    | int n hn => exact beq_iff_eq.2 (beq_iff_eq.1 h).symm
    | real y hy => exact h
  | real x hx =>
    cases b with
    | int n hn => exact h
    | real y hy => exact Place.beq_symm h

theorem same_trans {a b c : Number} (h : a.same b = true) (h' : b.same c = true) :
    a.same c = true := Place.beq_trans h h'

end Number

namespace Json

variable {eq : Number → Number → Bool}

/-! ## What a value can be the same as -/

theorem sameBy_null {w : Json} : sameBy eq .null w = true ↔ w = .null := by
  cases w <;> simp [sameBy]

theorem sameBy_bool {b : Bool} {w : Json} : sameBy eq (.bool b) w = true ↔ w = .bool b := by
  cases w <;> simp [sameBy]
  exact eq_comm

theorem sameBy_num {n : Number} {w : Json} :
    sameBy eq (.num n) w = true ↔ ∃ m, w = .num m ∧ eq n m = true := by
  cases w <;> simp [sameBy]

theorem sameBy_str {s : String} {w : Json} : sameBy eq (.str s) w = true ↔ w = .str s := by
  cases w <;> simp [sameBy]
  exact eq_comm

theorem sameBy_arr {vs : List Json} {w : Json} :
    sameBy eq (.arr vs) w = true ↔ ∃ ws, w = .arr ws ∧ sameItems eq vs ws = true := by
  cases w <;> simp [sameBy]

theorem sameBy_obj {ms : List (String × Json)} {w : Json} :
    sameBy eq (.obj ms) w = true ↔ ∃ ns, w = .obj ns ∧ sameMembers eq ms ns = true := by
  cases w <;> simp [sameBy]

theorem sameItems_nil {ws : List Json} : sameItems eq [] ws = true ↔ ws = [] := by
  cases ws <;> simp [sameItems]

theorem sameItems_cons {v : Json} {vs ws : List Json} :
    sameItems eq (v :: vs) ws = true ↔
      ∃ u us, ws = u :: us ∧ sameBy eq v u = true ∧ sameItems eq vs us = true := by
  cases ws with
  | nil => simp [sameItems]
  | cons w ws =>
    simp only [sameItems, Bool.and_eq_true, List.cons.injEq]
    constructor
    · rintro ⟨hv, hs⟩
      exact ⟨w, ws, ⟨rfl, rfl⟩, hv, hs⟩
    · rintro ⟨u, us, ⟨rfl, rfl⟩, hv, hs⟩
      exact ⟨hv, hs⟩

theorem sameMembers_nil {ns : List (String × Json)} : sameMembers eq [] ns = true ↔ ns = [] := by
  cases ns <;> simp [sameMembers]

theorem sameMembers_cons {k : String} {v : Json} {ms ns : List (String × Json)} :
    sameMembers eq ((k, v) :: ms) ns = true ↔
      ∃ u us, ns = (k, u) :: us ∧ sameBy eq v u = true ∧ sameMembers eq ms us = true := by
  cases ns with
  | nil => simp [sameMembers]
  | cons n ns =>
    obtain ⟨l, w⟩ := n
    simp only [sameMembers, Bool.and_eq_true, beq_iff_eq, List.cons.injEq, Prod.mk.injEq]
    constructor
    · rintro ⟨⟨rfl, hv⟩, hs⟩
      exact ⟨w, ns, ⟨⟨rfl, rfl⟩, rfl⟩, hv, hs⟩
    · rintro ⟨u, us, ⟨⟨rfl, rfl⟩, rfl⟩, hv, hs⟩
      exact ⟨⟨rfl, hv⟩, hs⟩

/-! ## The three laws -/

mutual

theorem sameBy_refl (h : ∀ n, eq n n = true) : (v : Json) → sameBy eq v v = true
  | .null => sameBy_null.2 rfl
  | .bool _ => sameBy_bool.2 rfl
  | .num n => sameBy_num.2 ⟨n, rfl, h n⟩
  | .str _ => sameBy_str.2 rfl
  | .arr items => sameBy_arr.2 ⟨items, rfl, sameItems_refl h items⟩
  | .obj members => sameBy_obj.2 ⟨members, rfl, sameMembers_refl h members⟩

theorem sameItems_refl (h : ∀ n, eq n n = true) : (vs : List Json) → sameItems eq vs vs = true
  | [] => sameItems_nil.2 rfl
  | v :: vs => sameItems_cons.2 ⟨v, vs, rfl, sameBy_refl h v, sameItems_refl h vs⟩

theorem sameMembers_refl (h : ∀ n, eq n n = true) :
    (ms : List (String × Json)) → sameMembers eq ms ms = true
  | [] => sameMembers_nil.2 rfl
  | (_, v) :: ms => sameMembers_cons.2 ⟨v, ms, rfl, sameBy_refl h v, sameMembers_refl h ms⟩

end

mutual

theorem sameBy_symm (h : ∀ a b, eq a b = true → eq b a = true) :
    (v w : Json) → sameBy eq v w = true → sameBy eq w v = true
  | .null, w, hs => by
    obtain rfl := sameBy_null.1 hs
    exact hs
  | .bool b, w, hs => by
    obtain rfl := sameBy_bool.1 hs
    exact hs
  | .num n, w, hs => by
    obtain ⟨m, rfl, hn⟩ := sameBy_num.1 hs
    exact sameBy_num.2 ⟨n, rfl, h n m hn⟩
  | .str s, w, hs => by
    obtain rfl := sameBy_str.1 hs
    exact hs
  | .arr vs, w, hs => by
    obtain ⟨ws, rfl, hs⟩ := sameBy_arr.1 hs
    exact sameBy_arr.2 ⟨vs, rfl, sameItems_symm h vs ws hs⟩
  | .obj ms, w, hs => by
    obtain ⟨ns, rfl, hs⟩ := sameBy_obj.1 hs
    exact sameBy_obj.2 ⟨ms, rfl, sameMembers_symm h ms ns hs⟩

theorem sameItems_symm (h : ∀ a b, eq a b = true → eq b a = true) :
    (vs ws : List Json) → sameItems eq vs ws = true → sameItems eq ws vs = true
  | [], ws, hs => by
    obtain rfl := sameItems_nil.1 hs
    exact hs
  | v :: vs, ws, hs => by
    obtain ⟨u, us, rfl, hv, hs⟩ := sameItems_cons.1 hs
    exact sameItems_cons.2 ⟨v, vs, rfl, sameBy_symm h v u hv, sameItems_symm h vs us hs⟩

theorem sameMembers_symm (h : ∀ a b, eq a b = true → eq b a = true) :
    (ms ns : List (String × Json)) → sameMembers eq ms ns = true → sameMembers eq ns ms = true
  | [], ns, hs => by
    obtain rfl := sameMembers_nil.1 hs
    exact hs
  | (k, v) :: ms, ns, hs => by
    obtain ⟨u, us, rfl, hv, hs⟩ := sameMembers_cons.1 hs
    exact sameMembers_cons.2 ⟨v, ms, rfl, sameBy_symm h v u hv, sameMembers_symm h ms us hs⟩

end

mutual

theorem sameBy_trans (h : ∀ a b c, eq a b = true → eq b c = true → eq a c = true) :
    (v w u : Json) → sameBy eq v w = true → sameBy eq w u = true → sameBy eq v u = true
  | .null, w, u, hs, ht => by
    obtain rfl := sameBy_null.1 hs
    exact ht
  | .bool b, w, u, hs, ht => by
    obtain rfl := sameBy_bool.1 hs
    exact ht
  | .num n, w, u, hs, ht => by
    obtain ⟨m, rfl, hn⟩ := sameBy_num.1 hs
    obtain ⟨l, rfl, hm⟩ := sameBy_num.1 ht
    exact sameBy_num.2 ⟨l, rfl, h n m l hn hm⟩
  | .str s, w, u, hs, ht => by
    obtain rfl := sameBy_str.1 hs
    exact ht
  | .arr vs, w, u, hs, ht => by
    obtain ⟨ws, rfl, hs⟩ := sameBy_arr.1 hs
    obtain ⟨us, rfl, ht⟩ := sameBy_arr.1 ht
    exact sameBy_arr.2 ⟨us, rfl, sameItems_trans h vs ws us hs ht⟩
  | .obj ms, w, u, hs, ht => by
    obtain ⟨ns, rfl, hs⟩ := sameBy_obj.1 hs
    obtain ⟨ls, rfl, ht⟩ := sameBy_obj.1 ht
    exact sameBy_obj.2 ⟨ls, rfl, sameMembers_trans h ms ns ls hs ht⟩

theorem sameItems_trans (h : ∀ a b c, eq a b = true → eq b c = true → eq a c = true) :
    (vs ws us : List Json) → sameItems eq vs ws = true → sameItems eq ws us = true →
      sameItems eq vs us = true
  | [], ws, us, hs, ht => by
    obtain rfl := sameItems_nil.1 hs
    exact ht
  | v :: vs, ws, us, hs, ht => by
    obtain ⟨w, ws, rfl, hv, hs⟩ := sameItems_cons.1 hs
    obtain ⟨u, us, rfl, hw, ht⟩ := sameItems_cons.1 ht
    exact sameItems_cons.2
      ⟨u, us, rfl, sameBy_trans h v w u hv hw, sameItems_trans h vs ws us hs ht⟩

theorem sameMembers_trans (h : ∀ a b c, eq a b = true → eq b c = true → eq a c = true) :
    (ms ns ls : List (String × Json)) → sameMembers eq ms ns = true →
      sameMembers eq ns ls = true → sameMembers eq ms ls = true
  | [], ns, ls, hs, ht => by
    obtain rfl := sameMembers_nil.1 hs
    exact ht
  | (k, v) :: ms, ns, ls, hs, ht => by
    obtain ⟨w, ns, rfl, hv, hs⟩ := sameMembers_cons.1 hs
    obtain ⟨u, ls, rfl, hw, ht⟩ := sameMembers_cons.1 ht
    exact sameMembers_cons.2
      ⟨u, ls, rfl, sameBy_trans h v w u hv hw, sameMembers_trans h ms ns ls hs ht⟩

end

theorem same_refl (v : Json) : v.same v = true := sameBy_refl Number.same_refl v

theorem alike_refl (v : Json) : v.alike v = true := sameBy_refl Number.alike_refl v

theorem same_symm {v w : Json} (h : v.same w = true) : w.same v = true := by
  have hn : ∀ a b, Number.same a b = true → Number.same b a = true :=
    fun _ _ => Number.same_symm
  exact sameBy_symm hn v w h

theorem alike_symm {v w : Json} (h : v.alike w = true) : w.alike v = true := by
  have hn : ∀ a b, Number.alike a b = true → Number.alike b a = true :=
    fun _ _ => Number.alike_symm
  exact sameBy_symm hn v w h

/-- **Sameness is transitive**, through any nesting. -/
theorem same_trans {v w u : Json} (h : v.same w = true) (h' : w.same u = true) :
    v.same u = true := by
  have hn : ∀ a b c, Number.same a b = true → Number.same b c = true → Number.same a c = true :=
    fun _ _ _ => Number.same_trans
  exact sameBy_trans hn v w u h h'

end Json

end LiveForm

import LiveForm.Proofs.Json.Agreement
import LiveForm.Proofs.Json.FloatText
import LiveForm.Text.Blank

/-!
# Values are read back from their text

The compact text of a value is read as this value (`Json.read?_compact`), whatever strings and numbers are in it, if
its brackets are not nested deeper than a document may be. The proof follows the value: what is read of an array or
an object is put together from what is read of its parts, one comma after the other. The only difference is that a
reader puts the members of an object in order (`Json.ordered`), so well-formed values are read back as they are
(`Json.ordered_eq_self`).
-/

namespace LiveForm

open Json.Reader

namespace Json

/-! ## The text of values -/

mutual

/-- How deep the brackets of a value are nested. -/
def nesting : Json → Nat
  | .arr items => nestingOfItems items + 1
  | .obj members => nestingOfMembers members + 1
  | _ => 0

def nestingOfItems : List Json → Nat
  | [] => 0
  | v :: rest => max v.nesting (nestingOfItems rest)

def nestingOfMembers : List (String × Json) → Nat
  | [] => 0
  | (_, v) :: rest => max v.nesting (nestingOfMembers rest)

end

mutual

/-- The value with the members of its objects in order; of two members with one key the later counts. -/
def ordered : Json → Json
  | .arr items => .arr (orderedItems items)
  | .obj members => .obj (Members.ofList (orderedMembers members))
  | v => v

def orderedItems : List Json → List Json
  | [] => []
  | v :: rest => v.ordered :: orderedItems rest

def orderedMembers : List (String × Json) → List (String × Json)
  | [] => []
  | (k, v) :: rest => (k, v.ordered) :: orderedMembers rest

end

/-- The text of the items after the first. -/
def furtherItems (items : List Json) : List Char := items.flatMap fun v => ',' :: v.compact.toList

theorem toList_compactItems (v : Json) (rest : List Json) :
    (compactItems (v :: rest)).toList = v.compact.toList ++ furtherItems rest := by
  induction rest generalizing v with
  | nil => simp [compactItems, furtherItems]
  | cons w rest ih =>
    simp only [compactItems, String.toList_append, ih, furtherItems, List.flatMap_cons]
    simp

/-- The text of a member. -/
def memberText (m : String × Json) : List Char := (quote m.1).toList ++ ':' :: m.2.compact.toList

/-- The text of the members after the first. -/
def furtherMembers (members : List (String × Json)) : List Char := members.flatMap fun m => ',' :: memberText m

theorem toList_compactMembers (m : String × Json) (rest : List (String × Json)) :
    (compactMembers (m :: rest)).toList = memberText m ++ furtherMembers rest := by
  induction rest generalizing m with
  | nil => simp [compactMembers, furtherMembers, memberText]
  | cons w rest ih =>
    simp only [compactMembers, String.toList_append, ih, furtherMembers, List.flatMap_cons, memberText]
    simp

/-- What a value may start with. -/
def StartsValue (c : Char) : Prop := Text.isBlank c = false ∧ c ≠ ']'

instance (c : Char) : Decidable (StartsValue c) := inferInstanceAs (Decidable (_ ∧ _))

/-- Numeric characters are no blanks. -/
theorem not_blank_of_isNumeric {c : Char} (hc : isNumeric c = true) : Text.isBlank c = false := by
  simp only [isNumeric, Bool.or_eq_true, beq_iff_eq] at hc
  rcases hc with (((hdigit | rfl) | rfl) | rfl) | rfl
  · obtain ⟨hlower, hupper⟩ := Char.isDigit_iff_toNat.1 hdigit
    have hlower : 48 ≤ c.toNat := hlower
    have hupper : c.toNat ≤ 57 := hupper
    simp only [Text.isBlank, Bool.or_eq_false_iff, Bool.and_eq_false_iff, decide_eq_false_iff_not, beq_eq_false_iff_ne]
    omega
  all_goals decide

theorem startsValue_of_isDigit {d : Char} (hd : isDigit d = true) : StartsValue d := by
  refine ⟨not_blank_of_isNumeric (by rw [isNumeric, hd]; rfl), ?_⟩
  rintro rfl
  exact absurd hd (by decide)

/-- What starts a value is no blank between values. -/
theorem StartsValue.not_space {c : Char} (h : StartsValue c) : isSpace c = false := by
  by_contra hspace
  rw [Bool.not_eq_false, isSpace] at hspace
  simp only [Bool.or_eq_true, beq_iff_eq] at hspace
  rcases hspace with ((rfl | rfl) | rfl) | rfl <;> exact absurd h (by decide)

/-- The text of a value starts with a character that nothing else starts with. -/
theorem compact_head (v : Json) : ∃ c cs, v.compact.toList = c :: cs ∧ StartsValue c := by
  cases v with
  | null => exact ⟨'n', ['u', 'l', 'l'], by decide, by decide, by decide⟩
  | bool b =>
    cases b with
    | false => exact ⟨'f', ['a', 'l', 's', 'e'], by decide, by decide, by decide⟩
    | true => exact ⟨'t', ['r', 'u', 'e'], by decide, by decide, by decide⟩
  | num n =>
    obtain ⟨negative, d, ds, htext, hd, -⟩ := n.legible
    rw [compact, htext]
    cases negative with
    | false => exact ⟨d, ds, rfl, startsValue_of_isDigit hd⟩
    | true => exact ⟨'-', d :: ds, rfl, by decide, by decide⟩
  | str s => exact ⟨'"', _, toList_quote s, by decide, by decide⟩
  | arr items => exact ⟨'[', _, by rw [compact, String.toList_append, String.toList_append]; rfl, by decide, by decide⟩
  | obj members =>
    exact ⟨'\x7b', _, by rw [compact, String.toList_append, String.toList_append]; rfl, by decide, by decide⟩

/-- The text of a value ends with no blank. -/
theorem compact_last (v : Json) : ∃ cs c, v.compact.toList = cs ++ [c] ∧ Text.isBlank c = false := by
  cases v with
  | null => exact ⟨['n', 'u', 'l'], 'l', by decide, by decide⟩
  | bool b =>
    cases b with
    | false => exact ⟨['f', 'a', 'l', 's'], 'e', by decide, by decide⟩
    | true => exact ⟨['t', 'r', 'u'], 'e', by decide, by decide⟩
  | num n =>
    obtain ⟨negative, d, ds, htext, hd, hds, -⟩ := n.legible
    have hall : (d :: ds).all isNumeric = true := by
      rw [List.all_cons, hds, isNumeric, hd]
      rfl
    have hlast := (List.all_eq_true.1 hall) _ (List.getLast_mem (List.cons_ne_nil d ds))
    refine ⟨(if negative then ['-'] else []) ++ (d :: ds).dropLast, (d :: ds).getLast (List.cons_ne_nil d ds), ?_,
      not_blank_of_isNumeric hlast⟩
    rw [compact, htext, List.append_assoc, List.dropLast_append_getLast]
  | str s => exact ⟨'"' :: escaped s.toList, '"', toList_quote s, by decide⟩
  | arr items =>
    exact ⟨'[' :: (compactItems items).toList, ']', by simp [compact], by decide⟩
  | obj members =>
    exact ⟨'\x7b' :: (compactMembers members).toList, '\x7d', by simp [compact], by decide⟩

theorem compact_length_pos (v : Json) : 0 < v.compact.length := by
  obtain ⟨c, cs, htext, -⟩ := v.compact_head
  rw [← String.length_toList, htext]
  exact Nat.succ_pos _

/-- What may follow a value. -/
def EndsValue (rest : List Char) : Prop := ∀ c ∈ rest.head?, c = ',' ∨ c = ']' ∨ c = '\x7d'

theorem EndsValue.endsNumber {rest : List Char} (h : EndsValue rest) : EndsNumber rest := by
  intro c hc
  rcases h c hc with rfl | rfl | rfl <;> decide

/-! ## Reading -/

/-- The text of the value is read as the value, with steps enough and brackets enough left. -/
def ReadsBack (v : Json) : Prop :=
  ∀ (depth fuel : Nat) (rest : List Char), v.nesting ≤ depth → v.compact.length ≤ fuel → EndsValue rest →
    Reads (value depth fuel) (v.compact.toList ++ rest) v.ordered rest

/-- Every value takes a step. -/
theorem ReadsBack.of_step {v : Json} (h : ∀ (depth fuel : Nat) (rest : List Char), v.nesting ≤ depth →
    v.compact.length ≤ fuel + 1 → EndsValue rest →
    Reads (value depth (fuel + 1)) (v.compact.toList ++ rest) v.ordered rest) : ReadsBack v := by
  intro depth fuel rest hdepth hfuel hrest
  obtain ⟨fuel, rfl⟩ := Nat.exists_eq_add_one.2 (Nat.lt_of_lt_of_le v.compact_length_pos hfuel)
  exact h depth fuel rest hdepth hfuel hrest

/-- The first character tells what a value is. -/
theorem reads_first {c : Char} {cs : List Char} (h : StartsValue c) : Reads peekToken? (c :: cs) (some c) (c :: cs) :=
  reads_peekToken? (c :: cs) (by rintro d ⟨⟩; exact h.not_space)

theorem readsBack_null : ReadsBack .null := by
  refine ReadsBack.of_step fun depth fuel rest _ _ _ => ?_
  refine (reads_first (c := 'n') (by decide)).bind ?_
  exact (reads_skip 'n' _).bind ((reads_word ['u', 'l', 'l'] rest).bind (.pure _ _))

theorem readsBack_bool (b : Bool) : ReadsBack (.bool b) := by
  refine ReadsBack.of_step fun depth fuel rest _ _ _ => ?_
  cases b with
  | false =>
    refine (reads_first (c := 'f') (by decide)).bind ?_
    exact (reads_skip 'f' _).bind ((reads_word ['a', 'l', 's', 'e'] rest).bind (.pure _ _))
  | true =>
    refine (reads_first (c := 't') (by decide)).bind ?_
    exact (reads_skip 't' _).bind ((reads_word ['r', 'u', 'e'] rest).bind (.pure _ _))

theorem readsBack_str (s : String) : ReadsBack (.str s) := by
  refine .of_step fun depth fuel rest _ hfuel _ => ?_
  rw [compact, ← String.length_toList] at hfuel
  have hlength : s.length < fuel := by
    have := length_lt_quote s
    omega
  rw [compact, toList_quote, List.cons_append, List.cons_append, List.append_assoc]
  refine (reads_first (by decide)).bind ?_
  exact (reads_skip '"' _).bind ((reads_string s rest fuel hlength).bind (.pure _ _))

/-- The digit that starts a number is taken for nothing else. -/
theorem reads_value_digit {depth fuel : Nat} {d : Char} {cs rest : List Char} {n : Number} (hd : isDigit d = true)
    (h : Reads (number false) (d :: cs) n rest) : Reads (value depth (fuel + 1)) (d :: cs) (.num n) rest := by
  refine (reads_first (startsValue_of_isDigit hd)).bind ?_
  have hno {c : Char} (hc : isDigit c = false) : some d ≠ some c := by
    rintro ⟨⟩
    rw [hd] at hc
    cases hc
  split
  · next hc => cases hc
  · next hc => exact absurd hc (hno (by decide))
  · next hc => exact absurd hc (hno (by decide))
  · next hc => exact absurd hc (hno (by decide))
  · next hc => exact absurd hc (hno (by decide))
  · next hc => exact absurd hc (hno (by decide))
  · next hc => exact absurd hc (hno (by decide))
  · next hc => exact absurd hc (hno (by decide))
  · next hc =>
    obtain rfl := Option.some.inj hc
    rw [if_pos hd]
    exact h.bind (.pure _ _)

theorem readsBack_num (n : Number) : ReadsBack (.num n) := by
  refine .of_step fun depth fuel rest _ _ hrest => ?_
  obtain ⟨negative, d, ds, htext, hd, -, hreads⟩ := n.legible
  have hnumber := hreads rest hrest.endsNumber
  rw [compact, htext]
  cases negative with
  | false => exact reads_value_digit hd hnumber
  | true =>
    refine (reads_first (c := '-') (by decide)).bind ?_
    exact (reads_skip '-' _).bind (hnumber.bind (.pure _ _))

/-! ### Arrays -/

theorem furtherItems_cons (v : Json) (items : List Json) :
    furtherItems (v :: items) = ',' :: v.compact.toList ++ furtherItems items := List.flatMap_cons

theorem endsValue_furtherItems (items : List Json) (rest : List Char) :
    EndsValue (furtherItems items ++ ']' :: rest) := by
  cases items with
  | nil =>
    rintro c ⟨⟩
    exact .inr (.inl rfl)
  | cons v items =>
    rintro c ⟨⟩
    exact .inl rfl

/-- After a comma there is another item. -/
theorem reads_nextItem (v : Json) (cs : List Char) :
    Reads (nextItem false) (',' :: (v.compact.toList ++ cs)) true (v.compact.toList ++ cs) := by
  obtain ⟨c, text, htext, hc⟩ := v.compact_head
  rw [htext]
  refine (reads_first (c := ',') (by decide)).bind ?_
  refine (reads_skip ',' _).bind ((reads_first hc).bind ?_)
  split
  · next h => cases h
  · next h => exact absurd (Option.some.inj h) hc.2
  · exact .pure _ _

/-- The first item needs no comma. -/
theorem reads_firstItem (v : Json) (cs : List Char) :
    Reads (nextItem true) (v.compact.toList ++ cs) true (v.compact.toList ++ cs) := by
  obtain ⟨c, text, htext, hc⟩ := v.compact_head
  rw [htext]
  refine (reads_first hc).bind ?_
  split
  · next h => cases h
  · next h => exact absurd (Option.some.inj h) hc.2
  · exact .pure _ _

/-- The items after the first, each after a comma. -/
theorem reads_items {items : List Json} (read : List Json) {depth : Nat} (fuel : Nat) (rest : List Char)
    (h : ∀ v ∈ items, ReadsBack v) (hdepth : nestingOfItems items ≤ depth)
    (hfuel : (furtherItems items).length < fuel) :
    Reads (Reader.items depth false read fuel) (furtherItems items ++ ']' :: rest)
      (read.reverse ++ orderedItems items) (']' :: rest) := by
  induction items generalizing read fuel with
  | nil =>
    obtain ⟨fuel, rfl⟩ := Nat.exists_eq_add_one.2 (Nat.zero_lt_of_lt hfuel)
    have hno : Reads (nextItem false) (']' :: rest) false (']' :: rest) := fun p => ⟨_, rfl⟩
    rw [orderedItems, List.append_nil]
    exact hno.bind (.pure _ _)
  | cons v items ih =>
    obtain ⟨fuel, rfl⟩ := Nat.exists_eq_add_one.2 (Nat.zero_lt_of_lt hfuel)
    rw [nestingOfItems, Nat.max_le] at hdepth
    rw [furtherItems_cons, List.length_append, List.length_cons, String.length_toList] at hfuel
    have hvalue := h v List.mem_cons_self depth fuel (furtherItems items ++ ']' :: rest) hdepth.1 (by omega)
      (endsValue_furtherItems items rest)
    have hrest := ih (v.ordered :: read) fuel (fun w hw => h w (List.mem_cons_of_mem v hw)) hdepth.2
      (by omega)
    rw [List.reverse_cons, List.append_assoc, List.singleton_append] at hrest
    rw [furtherItems_cons, List.append_assoc, List.cons_append, orderedItems]
    exact (reads_nextItem v _).bind (hvalue.bind hrest)

theorem reads_allItems {items : List Json} {depth fuel : Nat} {rest : List Char} (h : ∀ v ∈ items, ReadsBack v)
    (hdepth : nestingOfItems items ≤ depth) (hfuel : (compactItems items).toList.length < fuel) :
    Reads (Reader.items depth true [] fuel) ((compactItems items).toList ++ ']' :: rest) (orderedItems items)
      (']' :: rest) := by
  obtain ⟨fuel, rfl⟩ := Nat.exists_eq_add_one.2 (Nat.zero_lt_of_lt hfuel)
  cases items with
  | nil =>
    have hno : Reads (nextItem true) (']' :: rest) false (']' :: rest) := fun p => ⟨_, rfl⟩
    exact hno.bind (.pure _ _)
  | cons v items =>
    rw [nestingOfItems, Nat.max_le] at hdepth
    rw [toList_compactItems, List.length_append, String.length_toList] at hfuel
    have hvalue := h v List.mem_cons_self depth fuel (furtherItems items ++ ']' :: rest) hdepth.1 (by omega)
      (endsValue_furtherItems items rest)
    have hpos := v.compact_length_pos
    have hrest := reads_items [v.ordered] fuel rest
      (fun w hw => h w (List.mem_cons_of_mem v hw)) hdepth.2 (by omega)
    rw [toList_compactItems, List.append_assoc]
    exact (reads_firstItem v _).bind (hvalue.bind hrest)

theorem readsBack_arr {items : List Json} (h : ∀ v ∈ items, ReadsBack v) : ReadsBack (.arr items) := by
  refine ReadsBack.of_step fun depth fuel rest hdepth hfuel _ => ?_
  obtain ⟨depth, rfl⟩ := Nat.exists_eq_add_one.2 (Nat.lt_of_lt_of_le (Nat.succ_pos _) hdepth)
  have htext : (compact (.arr items)).toList = '[' :: ((compactItems items).toList ++ [']']) := by
    simp [compact]
  rw [← String.length_toList, htext, List.length_cons, List.length_append, List.length_singleton] at hfuel
  have hclose : Reads (close .list) (']' :: rest) () rest := fun p => ⟨_, rfl⟩
  have henter : Reads (enter (depth + 1) fun depth => Reader.items depth true [] fuel)
      ('[' :: ((compactItems items).toList ++ ']' :: rest)) (orderedItems items) (']' :: rest) :=
    (reads_skip '[' _).bind (reads_allItems h (Nat.le_of_succ_le_succ hdepth) (by omega))
  rw [htext, List.cons_append, List.append_assoc, List.singleton_append]
  refine (reads_first (c := '[') (by decide)).bind ?_
  exact henter.bind (hclose.bind (.pure _ _))

/-! ### Objects -/

theorem furtherMembers_cons (m : String × Json) (members : List (String × Json)) :
    furtherMembers (m :: members) = ',' :: memberText m ++ furtherMembers members := List.flatMap_cons

theorem memberText_eq (m : String × Json) (cs : List Char) :
    memberText m ++ cs = '"' :: (escaped m.1.toList ++ '"' :: ':' :: (m.2.compact.toList ++ cs)) := by
  simp [memberText, toList_quote]

theorem length_memberText (m : String × Json) :
    m.1.length + m.2.compact.length + 2 < (memberText m).length := by
  have hkey := length_lt_quote m.1
  have hvalue : m.2.compact.toList.length = m.2.compact.length := String.length_toList
  rw [memberText, List.length_append, List.length_cons]
  omega

theorem endsValue_furtherMembers (members : List (String × Json)) (rest : List Char) :
    EndsValue (furtherMembers members ++ '\x7d' :: rest) := by
  cases members with
  | nil =>
    rintro c ⟨⟩
    exact .inr (.inr rfl)
  | cons m members =>
    rintro c ⟨⟩
    exact .inl rfl

/-- A member is put among those that have been read. -/
theorem reads_member {m : String × Json} {read result : List (String × Json)} {depth fuel : Nat}
    {cs rest : List Char} (h : ReadsBack m.2) (hdepth : m.2.nesting ≤ depth) (hfuel : (memberText m).length ≤ fuel + 2)
    (hcs : EndsValue cs)
    (hrest : Reads (Reader.members depth false (insertMember m.1 m.2.ordered read) fuel) cs result rest) :
    Reads (do
      skip
      let k ← string [] fuel
      colon
      let v ← value depth fuel
      Reader.members depth false (insertMember k v read) fuel) (memberText m ++ cs) result rest := by
  have hlength := length_memberText m
  have hcolon (cs : List Char) : Reads colon (':' :: cs) () cs := fun p => ⟨_, rfl⟩
  have hkey := reads_string m.1 (':' :: (m.2.compact.toList ++ cs)) fuel (by omega)
  have hvalue := h depth fuel cs hdepth (by omega) hcs
  rw [memberText_eq]
  exact (reads_skip '"' _).bind (hkey.bind ((hcolon _).bind (hvalue.bind hrest)))

/-- The members after the first, each after a comma. -/
theorem reads_members {members : List (String × Json)} (read : List (String × Json)) {depth : Nat} (fuel : Nat)
    (rest : List Char)
    (h : ∀ m ∈ members, ReadsBack m.2) (hdepth : nestingOfMembers members ≤ depth)
    (hfuel : (furtherMembers members).length < fuel) :
    Reads (Reader.members depth false read fuel) (furtherMembers members ++ '\x7d' :: rest)
      ((orderedMembers members).foldl (fun sorted (k, v) => insertMember k v sorted) read) ('\x7d' :: rest) := by
  induction members generalizing read fuel with
  | nil =>
    obtain ⟨fuel, rfl⟩ := Nat.exists_eq_add_one.2 (Nat.zero_lt_of_lt hfuel)
    have hno : Reads (nextKey false) ('\x7d' :: rest) false ('\x7d' :: rest) := fun p => ⟨_, rfl⟩
    exact hno.bind (.pure _ _)
  | cons m members ih =>
    obtain ⟨fuel, rfl⟩ := Nat.exists_eq_add_one.2 (Nat.zero_lt_of_lt hfuel)
    rw [nestingOfMembers, Nat.max_le] at hdepth
    rw [furtherMembers_cons, List.length_append, List.length_cons] at hfuel
    have hnext (cs : List Char) : Reads (nextKey false) (',' :: '"' :: cs) true ('"' :: cs) := fun p => ⟨_, rfl⟩
    have hrest := ih (insertMember m.1 m.2.ordered read) fuel
      (fun n hn => h n (List.mem_cons_of_mem m hn)) hdepth.2 (by omega)
    have hmember := reads_member (h m List.mem_cons_self) hdepth.1 (by omega) (endsValue_furtherMembers members rest)
      hrest
    rw [furtherMembers_cons, List.append_assoc, List.cons_append]
    rw [memberText_eq] at hmember ⊢
    exact (hnext _).bind hmember

theorem reads_allMembers {members : List (String × Json)} {depth fuel : Nat} {rest : List Char}
    (h : ∀ m ∈ members, ReadsBack m.2) (hdepth : nestingOfMembers members ≤ depth)
    (hfuel : (compactMembers members).toList.length < fuel) :
    Reads (Reader.members depth true [] fuel) ((compactMembers members).toList ++ '\x7d' :: rest)
      (Members.ofList (orderedMembers members)) ('\x7d' :: rest) := by
  obtain ⟨fuel, rfl⟩ := Nat.exists_eq_add_one.2 (Nat.zero_lt_of_lt hfuel)
  cases members with
  | nil =>
    have hno : Reads (nextKey true) ('\x7d' :: rest) false ('\x7d' :: rest) := fun p => ⟨_, rfl⟩
    exact hno.bind (.pure _ _)
  | cons m members =>
    rw [nestingOfMembers, Nat.max_le] at hdepth
    rw [toList_compactMembers, List.length_append] at hfuel
    have hfirst (cs : List Char) : Reads (nextKey true) ('"' :: cs) true ('"' :: cs) := fun p => ⟨_, rfl⟩
    have hlength := length_memberText m
    have hrest := reads_members (insertMember m.1 m.2.ordered []) fuel rest
      (fun n hn => h n (List.mem_cons_of_mem m hn)) hdepth.2 (by omega)
    have hmember := reads_member (h m List.mem_cons_self) hdepth.1 (by omega) (endsValue_furtherMembers members rest)
      hrest
    rw [toList_compactMembers, List.append_assoc]
    rw [memberText_eq] at hmember ⊢
    exact (hfirst _).bind hmember

theorem readsBack_obj {members : List (String × Json)} (h : ∀ m ∈ members, ReadsBack m.2) :
    ReadsBack (.obj members) := by
  refine ReadsBack.of_step fun depth fuel rest hdepth hfuel _ => ?_
  obtain ⟨depth, rfl⟩ := Nat.exists_eq_add_one.2 (Nat.lt_of_lt_of_le (Nat.succ_pos _) hdepth)
  have htext : (compact (.obj members)).toList = '\x7b' :: ((compactMembers members).toList ++ ['\x7d']) := by
    simp [compact]
  rw [← String.length_toList, htext, List.length_cons, List.length_append, List.length_singleton] at hfuel
  have hclose : Reads (close .object) ('\x7d' :: rest) () rest := fun p => ⟨_, rfl⟩
  have henter : Reads (enter (depth + 1) fun depth => Reader.members depth true [] fuel)
      ('\x7b' :: ((compactMembers members).toList ++ '\x7d' :: rest)) (Members.ofList (orderedMembers members))
      ('\x7d' :: rest) :=
    (reads_skip '\x7b' _).bind (reads_allMembers h (Nat.le_of_succ_le_succ hdepth) (by omega))
  rw [htext, List.cons_append, List.append_assoc, List.singleton_append]
  refine (reads_first (c := '\x7b') (by decide)).bind ?_
  exact henter.bind (hclose.bind (.pure _ _))

/-- **Every value is read back.** -/
theorem readsBack (v : Json) : ReadsBack v := by
  induction v using Json.induction with
  | null => exact readsBack_null
  | bool b => exact readsBack_bool b
  | num n => exact readsBack_num n
  | str s => exact readsBack_str s
  | arr items ih => exact readsBack_arr ih
  | obj members ih => exact readsBack_obj ih

/-- **The compact text of a value is read as the value**, with the members of its objects in order. -/
theorem read?_compact {v : Json} (h : v.nesting ≤ greatestDepth) : read? v.compact = some v.ordered := by
  have hlength : v.compact.length ≤ 2 * v.compact.toList.length + 64 := by
    rw [String.length_toList]
    omega
  have hread := readsBack v greatestDepth _ [] h hlength nofun
  rw [List.append_nil] at hread
  rw [read?, read, whole_eq_ok hread]
  rfl

/-! ## Values in order -/

theorem orderedItems_eq_map (items : List Json) : orderedItems items = items.map ordered := by
  induction items with
  | nil => rfl
  | cons v items ih => rw [orderedItems, ih, List.map_cons]

theorem orderedMembers_eq_map (members : List (String × Json)) :
    orderedMembers members = members.map fun m => (m.1, m.2.ordered) := by
  induction members with
  | nil => rfl
  | cons m members ih => rw [orderedMembers, ih, List.map_cons]

/-- **A well-formed value is in order** as it is. -/
theorem ordered_eq_self {v : Json} (h : v.WellFormed) : v.ordered = v := by
  induction v using Json.induction with
  | null | bool | num | str => rfl
  | arr items ih =>
    cases h with
    | arr each =>
      have hitems : items.map ordered = items :=
        (List.map_congr_left fun v hv => ih v hv (each v hv)).trans (List.map_id items)
      rw [ordered, orderedItems_eq_map, hitems]
  | obj members ih =>
    cases h with
    | obj hordered each =>
      have hmembers : (members.map fun m => (m.1, m.2.ordered)) = members :=
        (List.map_congr_left (g := id) fun m hm => congrArg (m.1, ·) (ih m hm (each m hm))).trans (List.map_id members)
      rw [ordered, orderedMembers_eq_map, hmembers, hordered.ofList_eq]

/-- **A well-formed value is read back from its text.** -/
theorem Tidy.read?_compact {v : Tidy} (hdepth : v.1.nesting ≤ greatestDepth) :
    read? v.1.compact = some v.1 := by
  rw [Json.read?_compact hdepth, ordered_eq_self v.2]

end Json

end LiveForm

import Mathlib.Data.List.Basic
import Mathlib.Data.List.TakeDrop
import Mathlib.Data.List.TakeWhile
import Mathlib.Logic.ExistsUnique
import LiveForm.Form.Template

/-!
# One pass over a template

The references of a template are found from left to right. What a reference is, is said without the scanner
(`Begins`): a name in braces, with or without a format, or a name after the dollar sign that goes on as far as
there are word characters. A template is cut into references and literal characters, where a character is
literal only if no reference begins with it (`Cut`). There is one way to cut a template, and it is the one the
scanner takes (`cut_iff`).

So what is put in for a template is its cut with the references replaced one by one (`replace_in_one_pass`).
The cut does not depend on the values: what is put in is never looked at.
-/

namespace LiveForm.Template

/-- Word characters, at least one. -/
def IsName (cs : List Char) : Prop := cs ≠ [] ∧ ∀ c ∈ cs, Text.isWordChar c = true

/-- A text that does not begin with a word character. -/
def EndsName (rest : List Char) : Prop := ∀ c ∈ rest.head?, Text.isWordChar c = false

/-- A reference to a name, the way it is written, and a text that may follow it. -/
inductive Begins : (name written rest : List Char) → Prop
  | braced {name rest : List Char} (isName : IsName name) :
      Begins name ('$' :: '{' :: (name ++ ['}'])) rest
  | formatted {name format rest : List Char} (isName : IsName name) (isFormat : IsName format) :
      Begins name ('$' :: '{' :: (name ++ ':' :: (format ++ ['}']))) rest
  | plain {name rest : List Char} (isName : IsName name) (ends : EndsName rest) :
      Begins name ('$' :: name) rest

/-- A template cut from left to right: at every place the reference that begins there, and a literal
character if there is none. -/
inductive Cut : List Char → List Piece → Prop
  | nil : Cut [] []
  | literal {c : Char} {rest : List Char} {ps : List Piece}
      (none : ∀ name written after, c :: rest = written ++ after → ¬Begins name written after)
      (cut : Cut rest ps) : Cut (c :: rest) (.literal c :: ps)
  | reference {name written rest : List Char} {ps : List Piece} (begins : Begins name written rest)
      (cut : Cut rest ps) : Cut (written ++ rest) (.reference name written :: ps)

/-- A piece as the template has it. -/
def Piece.written : Piece → List Char
  | .literal c => [c]
  | .reference _ written => written

/-- The name that a piece refers to. -/
def Piece.name? : Piece → Option String
  | .literal _ => none
  | .reference name _ => some (String.ofList name)

/-! ## Names -/

theorem word_eq (cs : List Char) :
    word cs = (cs.takeWhile Text.isWordChar, cs.dropWhile Text.isWordChar) :=
  List.span_eq_takeWhile_dropWhile _ cs

/-- A run of word characters goes on to the first other character. -/
theorem word_eq_iff {cs name rest : List Char} : word cs = (name, rest) ↔
    cs = name ++ rest ∧ (∀ c ∈ name, Text.isWordChar c = true) ∧ EndsName rest := by
  rw [word_eq, Prod.mk.injEq]
  constructor
  · rintro ⟨rfl, rfl⟩
    refine ⟨List.takeWhile_append_dropWhile.symm, fun c hc => List.mem_takeWhile_imp hc, ?_⟩
    intro c hc
    have hhead := List.head?_dropWhile_not Text.isWordChar cs
    rw [Option.mem_def.1 hc] at hhead
    exact hhead
  · rintro ⟨rfl, hname, hrest⟩
    rw [List.takeWhile_append_of_pos hname, List.dropWhile_append_of_pos hname]
    cases rest with
    | nil => exact ⟨List.append_nil name, rfl⟩
    | cons c rest =>
      have hc : ¬Text.isWordChar c = true := by rw [hrest c rfl]; exact Bool.false_ne_true
      rw [List.takeWhile_cons_of_neg hc, List.dropWhile_cons_of_neg hc, List.append_nil]
      exact ⟨rfl, rfl⟩

theorem endsName_cons {c : Char} (h : Text.isWordChar c = false) (rest : List Char) : EndsName (c :: rest) := by
  intro d hd
  rwa [← Option.some.inj hd]

theorem word_of_isName {name rest : List Char} (h : IsName name) (hr : EndsName rest) :
    word (name ++ rest) = (name, rest) :=
  word_eq_iff.2 ⟨rfl, h.2, hr⟩

theorem word_closed {name : List Char} (h : IsName name) (rest : List Char) :
    word (name ++ '}' :: rest) = (name, '}' :: rest) :=
  word_of_isName h (endsName_cons (by decide) rest)

theorem word_colon {name : List Char} (h : IsName name) (rest : List Char) :
    word (name ++ ':' :: rest) = (name, ':' :: rest) :=
  word_of_isName h (endsName_cons (by decide) rest)

/-- Where a name begins there is no brace. -/
theorem IsName.ne_brace {name : List Char} (h : IsName name) (rest inner : List Char) :
    name ++ rest ≠ '{' :: inner := by
  cases name with
  | nil => exact absurd rfl h.1
  | cons c cs =>
    rintro heq
    obtain rfl : c = '{' := (List.cons.inj heq).1
    exact absurd (h.2 _ List.mem_cons_self) (by decide)

/-! ## References -/

/-- **The scanner finds references only.** -/
theorem begins_of_reference? {cs name written rest : List Char}
    (h : reference? cs = some ((name, written), rest)) :
    cs = written ++ rest ∧ Begins name ('$' :: written) rest := by
  unfold reference? at h
  split at h
  · next inner =>
    split at h
    · cases h
    · next name after hne hword =>
      -- the name is closed at once
      obtain ⟨rfl, hname, -⟩ := word_eq_iff.1 hword
      cases h
      exact ⟨by simp, .braced ⟨fun h => hne h, hname⟩⟩
    · next name after hne hword =>
      obtain ⟨rfl, hname, -⟩ := word_eq_iff.1 hword
      split at h
      · cases h
      · next format after hne' hword' =>
        obtain ⟨rfl, hformat, -⟩ := word_eq_iff.1 hword'
        cases h
        have hbegins : Begins name _ rest := .formatted ⟨fun h => hne h, hname⟩ ⟨fun h => hne' h, hformat⟩
        exact ⟨by simp, by simpa using hbegins⟩
      · cases h
    · cases h
  · split at h
    · cases h
    · next name after hne hword =>
      obtain ⟨rfl, hname, hends⟩ := word_eq_iff.1 hword
      cases h
      exact ⟨rfl, .plain ⟨fun h => hne h, hname⟩ hends⟩

/-- **The scanner finds every reference.** -/
theorem reference?_of_begins {name written rest : List Char} (h : Begins name written rest) :
    ∃ marked, written = '$' :: marked ∧ reference? (marked ++ rest) = some ((name, marked), rest) := by
  cases h with
  | braced h =>
    obtain ⟨c, cs, rfl⟩ := List.exists_cons_of_ne_nil h.1
    refine ⟨_, rfl, ?_⟩
    have hword := word_closed h rest
    simp only [List.cons_append, List.append_assoc, List.nil_append, reference?] at hword ⊢
    simp only [hword, List.cons_append]
  | formatted h hf =>
    obtain ⟨c, cs, rfl⟩ := List.exists_cons_of_ne_nil h.1
    obtain ⟨d, ds, rfl⟩ := List.exists_cons_of_ne_nil hf.1
    refine ⟨_, rfl, ?_⟩
    have hword := word_colon h (d :: ds ++ '}' :: rest)
    have hword' := word_closed hf rest
    simp only [List.cons_append, List.append_assoc, List.nil_append, reference?] at hword hword' ⊢
    simp only [hword, hword', List.cons_append]
  | plain h hr =>
    refine ⟨_, rfl, ?_⟩
    have hword := word_of_isName h hr
    have hbrace := h.ne_brace rest
    obtain ⟨c, cs, rfl⟩ := List.exists_cons_of_ne_nil h.1
    rw [reference?, hword]
    exact fun inner heq => absurd heq (hbrace inner)

/-- A text in which the scanner finds nothing begins with no reference. -/
theorem not_begins {c : Char} {rest : List Char} (h : c = '$' → reference? rest = none)
    {name written after : List Char} (heq : c :: rest = written ++ after) : ¬Begins name written after := by
  intro hb
  obtain ⟨marked, rfl, hfound⟩ := reference?_of_begins hb
  obtain ⟨hc, hrest⟩ : c = '$' ∧ rest = marked ++ after := List.cons.inj heq
  rw [← hrest, h hc] at hfound
  cases hfound

/-! ## Pieces -/

theorem Begins.ne_nil {name written rest : List Char} (h : Begins name written rest) :
    0 < written.length := by
  obtain ⟨marked, rfl, -⟩ := reference?_of_begins h
  exact Nat.succ_pos _

/-- The scanner cuts a template. -/
theorem cut_pieces {fuel : Nat} {cs : List Char} (h : cs.length ≤ fuel) : Cut cs (pieces fuel cs) := by
  induction fuel generalizing cs with
  | zero =>
    obtain rfl := List.length_eq_zero_iff.1 (Nat.le_zero.1 h)
    exact .nil
  | succ fuel ih =>
    cases cs with
    | nil => exact .nil
    | cons c rest =>
      have hrest : rest.length ≤ fuel := Nat.le_of_succ_le_succ h
      rw [pieces]
      split
      · next hc =>
        subst hc
        split
        · next name written after hfound =>
          obtain ⟨rfl, hbegins⟩ := begins_of_reference? hfound
          rw [List.length_append] at hrest
          exact .reference hbegins (ih (by omega))
        · next hnone => exact .literal (fun _ _ _ => not_begins fun _ => hnone) (ih hrest)
      · next hc => exact .literal (fun _ _ _ => not_begins fun heq => absurd heq hc) (ih hrest)

/-- There is no other way to cut it. -/
theorem Cut.eq_pieces {cs : List Char} {ps : List Piece} (h : Cut cs ps) {fuel : Nat}
    (hfuel : cs.length ≤ fuel) : ps = pieces fuel cs := by
  induction h generalizing fuel with
  | nil => cases fuel <;> rfl
  | @literal c rest ps hnone _ ih =>
    obtain ⟨fuel, rfl⟩ : ∃ n, fuel = n + 1 := ⟨fuel - 1, by simp at hfuel; omega⟩
    rw [ih (Nat.le_of_succ_le_succ hfuel), pieces]
    split
    · next hc =>
      subst hc
      split
      · next name written after hfound =>
        obtain ⟨rfl, hbegins⟩ := begins_of_reference? hfound
        exact absurd hbegins (hnone _ _ _ rfl)
      · rfl
    · rfl
  | @reference name written rest ps hbegins _ ih =>
    have hpos := hbegins.ne_nil
    obtain ⟨marked, rfl, hfound⟩ := reference?_of_begins hbegins
    rw [List.length_append, List.length_cons] at hfuel
    obtain ⟨fuel, rfl⟩ : ∃ n, fuel = n + 1 := ⟨fuel - 1, by omega⟩
    rw [ih (by omega : rest.length ≤ fuel), List.cons_append, pieces, if_pos rfl, hfound]

/-- **There is one cut of a template**, the one that the scanner finds. -/
theorem cut_iff {cs : List Char} {ps : List Piece} : Cut cs ps ↔ ps = pieces cs.length cs :=
  ⟨fun h => h.eq_pieces (Nat.le_refl _), fun h => h ▸ cut_pieces (Nat.le_refl _)⟩

/-- Nothing is lost in a cut. -/
theorem Cut.flatMap_written {cs : List Char} {ps : List Piece} (h : Cut cs ps) :
    ps.flatMap Piece.written = cs := by
  induction h with
  | nil => rfl
  | literal _ _ ih => rw [List.flatMap_cons, ih]; rfl
  | reference _ _ ih => rw [List.flatMap_cons, ih]; rfl

theorem Piece.render_literal (values : List (String × String)) (c : Char) :
    render values (.literal c) = [c] := rfl

theorem Piece.render_known {values : List (String × String)} {name : List Char} {value : String}
    (h : values.lookup (String.ofList name) = some value) (written : List Char) :
    render values (.reference name written) = value.toList := by
  rw [render, h]

theorem Piece.render_unknown {values : List (String × String)} {name : List Char}
    (h : values.lookup (String.ofList name) = none) (written : List Char) :
    render values (.reference name written) = written := by
  rw [render, h]

/-- Without values every piece stays as it is written. -/
theorem Piece.render_nil (p : Piece) : render [] p = p.written := by
  cases p <;> rfl

/-- A piece asks for the value of its name only. -/
theorem Piece.render_congr {values others : List (String × String)} {p : Piece}
    (h : ∀ name ∈ p.name?, values.lookup name = others.lookup name) : render values p = render others p := by
  cases p with
  | literal c => rfl
  | reference name written => rw [render, render, h _ rfl]

/-- What is put in for a template, by any cut of it. -/
theorem Cut.replace_eq {template : String} {ps : List Piece} (h : Cut template.toList ps)
    (values : List (String × String)) :
    replace values template = String.ofList (ps.flatMap (·.render values)) := by
  rw [cut_iff.1 h, replace]

/-- **A template is filled in one pass.** There is exactly one way to cut it into references, each one found where
it begins, and literal characters between them, and nothing is lost in it. Whatever the values, the result is the
pieces in their order: a literal character as it is, a reference to a known name as its value, and one to an unknown
name as it is written. So without values a template stays as it is, and the result depends on the values of the names
that are referred to and on nothing else. -/
theorem replace_in_one_pass (template : String) :
    (∃! ps, Cut template.toList ps) ∧ ∀ ps, Cut template.toList ps →
      ps.flatMap Piece.written = template.toList ∧
      (∀ values, replace values template = String.ofList (ps.flatMap (·.render values)) ∧
        (∀ c, Piece.render values (.literal c) = [c]) ∧
        (∀ name written value, values.lookup (String.ofList name) = some value →
          Piece.render values (.reference name written) = value.toList) ∧
        ∀ name written, values.lookup (String.ofList name) = none →
          Piece.render values (.reference name written) = written) ∧
      replace [] template = template ∧
      ∀ values others, (∀ name ∈ ps.filterMap Piece.name?, values.lookup name = others.lookup name) →
        replace values template = replace others template := by
  refine ⟨⟨_, cut_pieces (Nat.le_refl _), fun ps h => cut_iff.1 h⟩, fun ps h => ⟨h.flatMap_written, ?_, ?_, ?_⟩⟩
  · intro values
    exact ⟨h.replace_eq values, Piece.render_literal values, fun _ written _ hv => Piece.render_known hv written,
      fun _ written hv => Piece.render_unknown hv written⟩
  · have hwritten : (fun p => Piece.render [] p) = Piece.written := funext Piece.render_nil
    rw [h.replace_eq, hwritten, h.flatMap_written, String.ofList_toList]
  · intro values others hagree
    rw [h.replace_eq, h.replace_eq]
    refine congrArg String.ofList (List.flatMap_congr fun p hp => Piece.render_congr fun name hname => ?_)
    exact hagree name (List.mem_filterMap.2 ⟨p, hp, hname⟩)

/-- The cut of a template in which references follow each other and one is not closed. -/
theorem replace_in_one_pass_of_label :
    Cut "$a$\x7bb:c\x7d$$\x7bd\x7d$\x7be:".toList
        [.reference ['a'] "$a".toList, .reference ['b'] "$\x7bb:c\x7d".toList, .literal '$',
          .reference ['d'] "$\x7bd\x7d".toList, .literal '$', .literal '{', .literal 'e', .literal ':'] ∧
      replace [("a", "$b"), ("b", "1")] "$a$\x7bb:c\x7d$$\x7bd\x7d$\x7be:" = "$b1$$\x7bd\x7d$\x7be:" := by
  have hcut : Cut "$a$\x7bb:c\x7d$$\x7bd\x7d$\x7be:".toList
      [.reference ['a'] "$a".toList, .reference ['b'] "$\x7bb:c\x7d".toList, .literal '$',
        .reference ['d'] "$\x7bd\x7d".toList, .literal '$', .literal '{', .literal 'e', .literal ':'] :=
    cut_iff.2 (by decide)
  obtain ⟨-, hvalues, -⟩ := (replace_in_one_pass "$a$\x7bb:c\x7d$$\x7bd\x7d$\x7be:").2 _ hcut
  exact ⟨hcut, (hvalues [("a", "$b"), ("b", "1")]).1.trans (by decide)⟩

end LiveForm.Template

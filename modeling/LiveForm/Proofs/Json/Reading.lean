import Mathlib.Data.List.TakeWhile
import LiveForm.Json.Printer
import LiveForm.Json.Reader

/-!
# What a reader takes off a text

A reader that succeeds takes a value off the characters in front of it and leaves the others. The places it keeps
count of matter for errors only, so they are left out here (`Reader.Reads`). Readers in sequence read one after the
other (`Reads.bind`), and what a reader does with a text that was written for it is put together from what its
steps do.

Strings are read back as they were written: each character is written in a way that the reader undoes
(`reads_escapeChar`), so a literal in quotes is read as its string, whatever characters are in it
(`reads_string`).
-/

namespace LiveForm.Json.Reader

variable {α β : Type}

/-- From these characters the reader reads `a` and leaves `rest`, wherever the text stands. -/
def Reads (r : Reader α) (cs : List Char) (a : α) (rest : List Char) : Prop :=
  ∀ p, ∃ q, r.run ⟨cs, p⟩ = .ok (a, ⟨rest, q⟩)

namespace Reads

theorem pure (a : α) (cs : List Char) : Reads (pure a) cs a cs := fun p => ⟨p, rfl⟩

/-- Readers in sequence. -/
theorem bind {r : Reader α} {f : α → Reader β} {cs mid rest : List Char} {a : α} {b : β}
    (hr : Reads r cs a mid) (hf : Reads (f a) mid b rest) : Reads (r >>= f) cs b rest := by
  intro p
  obtain ⟨q, hq⟩ := hr p
  obtain ⟨q', hq'⟩ := hf q
  refine ⟨q', ?_⟩
  rw [StateT.run_bind, hq]
  exact hq'

/-- What depends on the place reads the same from every place. -/
theorem get {f : Cursor → Reader α} {cs rest : List Char} {a : α} (hf : ∀ p, Reads (f ⟨cs, p⟩) cs a rest) :
    Reads (MonadState.get >>= f) cs a rest := fun p => hf p p

end Reads

/-! ## Steps -/

theorem reads_peek? (cs : List Char) : Reads peek? cs cs.head? cs := fun p => ⟨p, rfl⟩

theorem reads_skip (c : Char) (rest : List Char) : Reads skip (c :: rest) () rest := by
  intro p
  by_cases hc : c = '\n'
  · exact ⟨⟨p.line + 1, 0⟩, by subst hc; rfl⟩
  · refine ⟨⟨p.line, p.column + c.utf8Size⟩, ?_⟩
    show Except.ok ((), Cursor.advance ⟨c :: rest, p⟩) = _
    rw [Cursor.advance]
    simp only [hc, if_false]

/-- The characters that are skipped between the parts of a value. -/
def isSpace (c : Char) : Bool := c == '\n' || c == ' ' || c == '\t' || c == '\r'

/-- A text that does not start with a blank is looked at as it is. -/
theorem reads_peekToken? (cs : List Char) (h : ∀ c ∈ cs.head?, isSpace c = false) :
    Reads peekToken? cs cs.head? cs := by
  intro p
  refine ⟨p, ?_⟩
  have hskip : Cursor.skipBlanks ⟨cs, p⟩ = ⟨cs, p⟩ := by
    cases cs with
    | nil => rfl
    | cons c rest =>
      have hc : isSpace c = false := h c rfl
      simp only [isSpace, Bool.or_eq_false_iff, beq_eq_false_iff_ne] at hc
      obtain ⟨⟨⟨hline, hblank⟩, htab⟩, hreturn⟩ := hc
      simp only [Cursor.skipBlanks, Cursor.skipBlanks.go, hline, hblank, htab, hreturn, if_false, or_self]
  show Except.ok ((Cursor.skipBlanks ⟨cs, p⟩).rest.head?, Cursor.skipBlanks ⟨cs, p⟩) = _
  rw [hskip]

theorem reads_word (cs rest : List Char) : Reads (word cs) (cs ++ rest) () rest := by
  induction cs with
  | nil => exact .pure () rest
  | cons c cs ih =>
    rw [word, List.cons_append]
    refine (reads_peek? _).bind ?_
    simp only [List.head?_cons, if_true]
    exact (reads_skip c _).bind ih

/-- All digits are taken that come next. -/
theorem reads_digits {ds rest : List Char} (hds : ds.all isDigit = true)
    (hrest : ∀ c ∈ rest.head?, isDigit c = false) : Reads digits (ds ++ rest) ds rest := by
  rw [List.all_eq_true] at hds
  have htake : (ds ++ rest).takeWhile isDigit = ds := by
    rw [List.takeWhile_append_of_pos hds]
    cases rest with
    | nil => simp
    | cons c rest => rw [List.takeWhile_cons_of_neg (by simp [hrest c rfl]), List.append_nil]
  have hdrop : (ds ++ rest).dropWhile isDigit = rest := by
    rw [List.dropWhile_append_of_pos hds]
    cases rest with
    | nil => rfl
    | cons c rest => rw [List.dropWhile_cons_of_neg (by simp [hrest c rfl])]
  intro p
  refine ⟨⟨p.line, p.column + ds.length⟩, ?_⟩
  show Except.ok ((ds ++ rest).takeWhile isDigit, Cursor.mk ((ds ++ rest).dropWhile isDigit)
    ⟨p.line, p.column + ((ds ++ rest).takeWhile isDigit).length⟩) = _
  rw [htake, hdrop]

/-! ## Strings -/

theorem hexValue?_hexDigit : ∀ n < 16, hexValue? (hexDigit n) = some n := by decide

/-- The four digits of an escape, of which the first two are zero. -/
theorem reads_hexEscape {a b : Nat} (ha : a < 16) (hb : b < 16) (rest : List Char) :
    Reads hexEscape ('0' :: '0' :: hexDigit a :: hexDigit b :: rest) (a * 16 + b) rest := by
  intro p
  have hsize : ∀ (cs : List Char) (n : Nat), n ≤ cs.foldl (· + ·.utf8Size) n := by
    intro cs
    induction cs with
    | nil => exact fun n => Nat.le_refl n
    | cons c cs ih => exact fun n => Nat.le_trans (Nat.le_add_right _ _) (ih _)
  have hlong : ¬('0' :: '0' :: hexDigit a :: hexDigit b :: rest).foldl (· + ·.utf8Size) 0 < 4 := by
    have hchar (c : Char) : 1 ≤ c.utf8Size := c.utf8Size_pos
    have hrest := hsize rest (0 + '0'.utf8Size + '0'.utf8Size + (hexDigit a).utf8Size + (hexDigit b).utf8Size)
    have ha := hchar (hexDigit a)
    have hb := hchar (hexDigit b)
    have hzero : '0'.utf8Size = 1 := by decide
    simp only [List.foldl_cons] at hrest ⊢
    omega
  have hvalues : (('0' :: '0' :: hexDigit a :: hexDigit b :: rest).take 4).mapM hexValue? =
      some [0, 0, a, b] := by
    have hzero : hexValue? '0' = some 0 := by decide
    simp [List.take, hzero, hexValue?_hexDigit a ha, hexValue?_hexDigit b hb]
  refine ⟨Cursor.placeAfter 4 ⟨'0' :: '0' :: hexDigit a :: hexDigit b :: rest, p⟩, ?_⟩
  simp only [hexEscape, StateT.run_bind, StateT.run_get, pure_bind, hlong, if_false, hvalues, Nat.zero_mul,
    Nat.zero_add]
  rfl

theorem reads_escape_named (c d : Char) (rest : List Char) (h : (c, d) ∈
    [('"', '"'), ('\\', '\\'), ('n', '\n'), ('r', '\r'), ('t', '\t'), ('b', '\x08'), ('f', '\x0c')]) :
    Reads escape (c :: rest) d rest := by
  intro p
  simp only [List.mem_cons, Prod.mk.injEq, List.not_mem_nil, or_false] at h
  rcases h with ⟨rfl, rfl⟩ | ⟨rfl, rfl⟩ | ⟨rfl, rfl⟩ | ⟨rfl, rfl⟩ | ⟨rfl, rfl⟩ | ⟨rfl, rfl⟩ | ⟨rfl, rfl⟩ <;>
    exact ⟨_, rfl⟩

/-- A control character as the escape of its number. -/
theorem reads_escape_control {c : Char} (h : c.toNat < 32) (rest : List Char) :
    Reads escape ('u' :: '0' :: '0' :: hexDigit (c.toNat / 16) :: hexDigit (c.toNat % 16) :: rest) c rest := by
  have hnumber : c.toNat / 16 * 16 + c.toNat % 16 = c.toNat := Nat.div_add_mod' _ _
  have hchar : Reads unicodeEscape ('0' :: '0' :: hexDigit (c.toNat / 16) :: hexDigit (c.toNat % 16) :: rest) c
      rest := by
    refine (reads_hexEscape (by omega) (by omega) rest).bind ?_
    rw [hnumber, if_neg (by omega), if_pos (by omega), Char.ofNat_toNat]
    exact .pure _ _
  exact (reads_peek? _).bind ((reads_skip 'u' _).bind hchar)

/-- An escape inside a string. -/
theorem reads_string_escape {written cs rest : List Char} {c : Char} {tail : List Char} {fuel : Nat} {s : String}
    (hc : Reads escape tail c cs) (hs : Reads (string (c :: written) fuel) cs s rest) :
    Reads (string written (fuel + 1)) ('\\' :: tail) s rest := by
  rw [string]
  refine (reads_peek? _).bind ?_
  exact (reads_skip '\\' _).bind (hc.bind hs)

/-- **A character is read back** as it was written. -/
theorem reads_escapeChar {written cs rest : List Char} {fuel : Nat} {s : String} (c : Char)
    (hs : Reads (string (c :: written) fuel) cs s rest) :
    Reads (string written (fuel + 1)) ((escapeChar c).toList ++ cs) s rest := by
  have hnamed (name : Char) (h : (name, c) ∈ [('"', '"'), ('\\', '\\'), ('n', '\n'), ('r', '\r'), ('t', '\t'),
      ('b', '\x08'), ('f', '\x0c')]) : Reads (string written (fuel + 1)) ('\\' :: name :: cs) s rest :=
    reads_string_escape (reads_escape_named name c cs h) hs
  rw [escapeChar]
  split
  · next hc => subst hc; exact hnamed '"' (by decide)
  split
  · next hc => subst hc; exact hnamed '\\' (by decide)
  split
  · next hc => subst hc; exact hnamed 'n' (by decide)
  split
  · next hc => subst hc; exact hnamed 'r' (by decide)
  split
  · next hc => subst hc; exact hnamed 't' (by decide)
  split
  · next hc => subst hc; exact hnamed 'b' (by decide)
  split
  · next hc => subst hc; exact hnamed 'f' (by decide)
  split
  · next hcontrol =>
    simp only [String.toList_append, String.toList_ofList]
    exact reads_string_escape (reads_escape_control hcontrol cs) hs
  · next hquote hslash _ _ _ _ _ hplain =>
    rw [Char.toString, String.toList_singleton, List.singleton_append, string]
    refine (reads_peek? _).bind ?_
    simp only [List.head?_cons, hquote, hslash, hplain, if_false]
    exact (reads_skip c cs).bind hs

/-- The characters of a string as they stand between quotes. -/
def escaped (cs : List Char) : List Char := cs.flatMap fun c => (escapeChar c).toList

theorem toList_quote (s : String) : (quote s).toList = '"' :: escaped s.toList ++ ['"'] := by
  have hfoldl : ∀ (cs : List Char) (text : String),
      (cs.foldl (fun text c => text ++ escapeChar c) text).toList = text.toList ++ escaped cs := by
    intro cs
    induction cs with
    | nil => simp [escaped]
    | cons c cs ih => intro text; simp [escaped, ih]
  simp [quote, String.foldl_eq_foldl_toList, hfoldl]

/-- No character is written with nothing. -/
theorem length_le_escaped (cs : List Char) : cs.length ≤ (escaped cs).length := by
  induction cs with
  | nil => exact Nat.le_refl 0
  | cons c cs ih =>
    have hc : 0 < (escapeChar c).toList.length := by
      rw [escapeChar]
      repeat' split
      all_goals simp
    rw [escaped, List.flatMap_cons, List.length_append, List.length_cons]
    have : cs.length ≤ (cs.flatMap fun c => (escapeChar c).toList).length := ih
    omega

theorem length_lt_quote (s : String) : s.length + 1 < (quote s).toList.length := by
  have := length_le_escaped s.toList
  rw [String.length_toList] at this
  rw [toList_quote, List.length_append, List.length_cons, List.length_singleton]
  omega

/-- A string after its opening quote. -/
theorem reads_string_from (written cs rest : List Char) {fuel : Nat} (hfuel : cs.length < fuel) :
    Reads (string written fuel) (escaped cs ++ '"' :: rest) (String.ofList (written.reverse ++ cs)) rest := by
  induction cs generalizing written fuel with
  | nil =>
    obtain ⟨fuel, rfl⟩ := Nat.exists_eq_add_one.2 hfuel
    rw [string, List.append_nil]
    refine (reads_peek? _).bind ?_
    exact (reads_skip '"' rest).bind (.pure _ _)
  | cons c cs ih =>
    obtain ⟨fuel, rfl⟩ := Nat.exists_eq_add_one.2 (Nat.zero_lt_of_lt hfuel)
    have hrest := ih (c :: written) (Nat.lt_of_succ_lt_succ hfuel)
    rw [List.reverse_cons, List.append_assoc, List.singleton_append] at hrest
    rw [escaped, List.flatMap_cons, List.append_assoc]
    exact reads_escapeChar c hrest

/-- **A string is read back** from its literal, after the opening quote. -/
theorem reads_string (s : String) (rest : List Char) (fuel : Nat) (hfuel : s.length < fuel) :
    Reads (string [] fuel) (escaped s.toList ++ '"' :: rest) s rest := by
  have := reads_string_from [] s.toList rest (by rwa [String.length_toList])
  rwa [List.reverse_nil, List.nil_append, String.ofList_toList] at this

/-! ## Whole texts -/

theorem run_eq_ok {r : Reader α} {text : String} {a : α} {rest : List Char} (h : Reads r text.toList a rest) :
    (·.1) <$> r.run (Cursor.start text) = .ok a := by
  obtain ⟨q, hq⟩ := h ⟨1, 0⟩
  exact congrArg (Prod.fst <$> ·) hq

/-- A text is read if nothing is left of it. -/
theorem whole_eq_ok {read : Nat → Reader α} {text : String} {a : α}
    (h : Reads (read (2 * text.toList.length + 64)) text.toList a []) : whole read text = .ok a := by
  have hend : Reads peekToken? [] none [] := reads_peekToken? [] nofun
  rw [whole]
  exact run_eq_ok (h.bind (hend.bind (.pure a [])))

end LiveForm.Json.Reader

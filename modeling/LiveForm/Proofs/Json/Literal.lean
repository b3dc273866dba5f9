import LiveForm.Proofs.Json.Reading

/-!
# Number literals

A number is read digit by digit, and what it is shows only at its end: an integer if there is neither a fraction
nor an exponent, else the float nearest to a decimal (`Literal.reads`). Either way the digits before the point are
no row with a zero in front, and the literal has to end before the next part of the document (`EndsNumber`).
-/

namespace LiveForm.Json.Reader

/-! ## Digits -/

/-- What may follow a number: it is no part of it. -/
def EndsNumber (rest : List Char) : Prop :=
  ∀ c ∈ rest.head?, isDigit c = false ∧ c ≠ '.' ∧ c ≠ 'e' ∧ c ≠ 'E'

theorem valueOfDigits_eq (ds : List Char) : valueOfDigits ds = Nat.ofDigitChars 10 ds 0 := rfl

theorem valueOfDigits_append (ds es : List Char) :
    valueOfDigits (ds ++ es) = 10 ^ es.length * valueOfDigits ds + valueOfDigits es := by
  rw [valueOfDigits_eq, Nat.ofDigitChars_append, Nat.ofDigitChars_eq_ofDigitChars_zero]
  rfl

theorem valueOfDigits_toDigits (n : Nat) : valueOfDigits (Nat.toDigits 10 n) = n := Nat.ofDigitChars_ten_toDigits

theorem valueOfDigits_zeros (n : Nat) : valueOfDigits (List.replicate n '0') = 0 := by
  rw [valueOfDigits_eq, Nat.ofDigitChars_replicate_zero, Nat.mul_zero]

/-- Zeros in front do not count. -/
theorem valueOfDigits_zeros_append (n : Nat) (ds : List Char) :
    valueOfDigits (List.replicate n '0' ++ ds) = valueOfDigits ds := by
  rw [valueOfDigits_append, valueOfDigits_zeros, Nat.mul_zero, Nat.zero_add]

/-- The digits at the start of a row have no greater value. -/
theorem valueOfDigits_take_le (ds : List Char) (k : Nat) : valueOfDigits (ds.take k) ≤ valueOfDigits ds := by
  have h := valueOfDigits_append (ds.take k) (ds.drop k)
  rw [List.take_append_drop] at h
  have hpos : 0 < 10 ^ (ds.drop k).length := Nat.pow_pos (by decide)
  have := Nat.le_mul_of_pos_left (valueOfDigits (ds.take k)) hpos
  omega

theorem all_isDigit_toDigits (n : Nat) : (Nat.toDigits 10 n).all isDigit = true :=
  List.all_eq_true.2 fun _ hc => Nat.isDigit_of_mem_toDigits (by decide) (by decide) hc

theorem all_isDigit_zeros (n : Nat) : (List.replicate n '0').all isDigit = true := by
  rw [List.all_replicate]
  split <;> decide

/-- The characters that numbers are written with. -/
def isNumeric (c : Char) : Bool := isDigit c || c == '.' || c == 'e' || c == '+' || c == '-'

theorem all_isNumeric {ds : List Char} (h : ds.all isDigit = true) : ds.all isNumeric = true := by
  rw [List.all_eq_true] at h ⊢
  intro d hd
  rw [isNumeric, h d hd]
  rfl

/-- The digits of a number other than zero do not start with a zero. -/
theorem head?_toDigits {n : Nat} (hn : n ≠ 0) : (Nat.toDigits 10 n).head? ≠ some '0' := by
  induction n using Nat.strongRecOn with
  | ind n ih =>
    by_cases hsmall : n < 10
    · rw [Nat.toDigits_of_lt_base hsmall]
      have hdigit : ∀ n < 10, n ≠ 0 → some n.digitChar ≠ some '0' := by decide
      exact hdigit n hsmall hn
    · have hsome : (Nat.toDigits 10 (n / 10)).head?.isSome := List.isSome_head?.2 Nat.toDigits_ne_nil
      rw [Nat.toDigits_of_base_le (by decide) (by omega), List.head?_append, Option.or_of_isSome hsome]
      exact ih (n / 10) (by omega) (by omega)

/-! ## Integers -/

theorem toList_toString (n : Int) :
    (toString n).toList = (if n < 0 then ['-'] else []) ++ Nat.toDigits 10 n.natAbs := by
  cases n with
  | ofNat k =>
    have hnot : ¬Int.ofNat k < 0 := Int.not_lt.2 (Int.natCast_nonneg k)
    rw [if_neg hnot]
    exact Nat.toList_repr
  | negSucc k =>
    rw [if_pos (Int.negSucc_lt_zero k)]
    show ("-" ++ (k + 1).repr).toList = _
    rw [String.toList_append, Nat.toList_repr]
    rfl

/-- **The digits before the point.** They are a zero, or they do not start with one. -/
theorem reads_number {negative : Bool} {whole tail rest : List Char} {n : Number}
    (hdigits : whole.all isDigit = true) (hne : whole ≠ []) (hlead : whole = ['0'] ∨ whole.head? ≠ some '0')
    (htail : ∀ c ∈ tail.head?, isDigit c = false) (h : Reads (afterDigits negative whole) tail n rest) :
    Reads (number negative) (whole ++ tail) n rest := by
  obtain ⟨d, ds, rfl⟩ := List.exists_cons_of_ne_nil hne
  refine (reads_peek? _).bind ?_
  by_cases hzero : d = '0'
  · obtain rfl : ds = [] := by
      rcases hlead with hlead | hlead
      · exact (List.cons.inj hlead).2
      · exact absurd (congrArg some hzero) hlead
    subst hzero
    refine (reads_skip '0' tail).bind ((reads_peek? tail).bind ?_)
    cases tail with
    | nil => exact h
    | cons c tail =>
      have hc : isDigit c = false := htail c rfl
      simpa [hc] using h
  · have hd : isDigit d = true := (List.all_eq_true.1 hdigits) d List.mem_cons_self
    simp only [List.cons_append, List.head?_cons, hzero, hd, if_false, if_true]
    exact (reads_digits hdigits htail).bind h

/-- Without a fraction and an exponent the number is an integer. -/
theorem reads_afterDigits_integer {negative : Bool} {whole rest : List Char} {n : Number} (hrest : EndsNumber rest)
    (hn : integerOf negative (valueOfDigits whole) = pure n) : Reads (afterDigits negative whole) rest n rest := by
  refine (reads_peek? rest).bind ?_
  cases rest with
  | nil =>
    simp only [List.head?_nil, reduceCtorEq, or_self, if_false, hn]
    exact .pure n []
  | cons c rest =>
    obtain ⟨-, hpoint, hsmall, hbig⟩ := hrest c rfl
    split
    · next hc => exact absurd (Option.some.inj hc) hpoint
    · next hc =>
      simp only [List.head?_cons, Option.some.injEq, hsmall, hbig, or_self, if_false, hn]
      exact .pure n _

/-! ## Floats -/

/-- An exponent with its letter and its sign. -/
def exponentText (e : Int) : List Char :=
  'e' :: (if e < 0 then '-' else '+') :: Nat.toDigits 10 e.natAbs

/-- A float as it is written. -/
structure Literal where
  whole : List Char
  fraction : List Char
  exponent : Option Int
  whole_digits : whole.all isDigit = true
  whole_ne_nil : whole ≠ []
  lead : whole = ['0'] ∨ whole.head? ≠ some '0'
  fraction_digits : fraction.all isDigit = true
  isReal : fraction ≠ [] ∨ exponent.isSome = true
  exponent_le : ∀ e ∈ exponent, e.natAbs ≤ greatestExponent

namespace Literal

/-- The characters after the digits before the point. -/
def tail (l : Literal) : List Char :=
  (if l.fraction = [] then [] else '.' :: l.fraction) ++ l.exponent.elim [] exponentText

def text (l : Literal) : List Char := l.whole ++ l.tail

/-- All characters of a literal are numeric. -/
theorem all_text (l : Literal) : l.text.all isNumeric = true := by
  have hexponent : (l.exponent.elim [] exponentText).all isNumeric = true := by
    cases l.exponent with
    | none => rfl
    | some e =>
      rw [Option.elim_some, exponentText, List.all_cons, List.all_cons, all_isNumeric (all_isDigit_toDigits _)]
      split <;> decide
  have hfraction : (if l.fraction = [] then [] else '.' :: l.fraction).all isNumeric = true := by
    split
    · rfl
    · rw [List.all_cons, all_isNumeric l.fraction_digits]
      decide
  rw [text, tail, List.all_append, List.all_append, all_isNumeric l.whole_digits, hfraction, hexponent]
  rfl

/-- All digits as one number. -/
def mantissa (l : Literal) : Nat := valueOfDigits (l.whole ++ l.fraction)

/-- The power of ten that the digits are multiplied with. -/
def scale (l : Literal) : Int := l.exponent.getD 0 - l.fraction.length

end Literal

theorem reads_realOf {negative : Bool} {mantissa : Nat} {scale : Int} {n : Number} (rest : List Char)
    (h : nearest? negative mantissa scale = some n) : Reads (realOf negative mantissa scale) rest n rest := by
  rw [realOf, h]
  exact .pure n rest

theorem overflowAt?_eq_none {ds : List Char} (h : valueOfDigits ds ≤ greatestExponent) : overflowAt? ds = none := by
  refine List.find?_eq_none.2 fun k _ => ?_
  have := valueOfDigits_take_le ds k
  rw [decide_eq_true_iff]
  omega

theorem reads_exponentPart {negative : Bool} {mantissa : Nat} {scale e : Int} {rest : List Char} {n : Number}
    (he : e.natAbs ≤ greatestExponent) (hrest : ∀ c ∈ rest.head?, isDigit c = false)
    (h : nearest? negative mantissa (scale + e) = some n) :
    Reads (exponentPart negative mantissa scale) (exponentText e ++ rest) n rest := by
  obtain ⟨d, ds, hds⟩ := List.exists_cons_of_ne_nil (Nat.toDigits_ne_nil (n := e.natAbs) (b := 10))
  have hall := all_isDigit_toDigits e.natAbs
  have hvalue := valueOfDigits_toDigits e.natAbs
  rw [hds] at hall hvalue
  have hd : isDigit d = true := (List.all_eq_true.1 hall) d List.mem_cons_self
  have hnone : overflowAt? (d :: ds) = none := overflowAt?_eq_none (by rwa [hvalue])
  -- The sign that is written is the one that is applied to the digits.
  have hsigned (c : Char) (hc : c = '+' ∨ c = '-') (hsign : (if c = '-' then -(e.natAbs : Int) else e.natAbs) = e) :
      Reads (exponentPart negative mantissa scale) ('e' :: c :: d :: (ds ++ rest)) n rest := by
    refine (reads_skip 'e' _).bind ((reads_peek? _).bind ?_)
    simp only [List.head?_cons, Option.some.injEq, hc, if_true]
    refine (reads_skip c _).bind ((reads_peek? _).bind ?_)
    simp only [List.head?_cons, hd, Bool.not_true, Bool.false_eq_true, if_false]
    refine .get fun start => (reads_digits hall hrest).bind ?_
    simp only [hnone, hvalue, hsign]
    exact reads_realOf rest h
  rw [exponentText, hds]
  split
  · next hneg => exact hsigned '-' (.inr rfl) (by rw [if_pos rfl]; omega)
  · next hneg => exact hsigned '+' (.inl rfl) (by rw [if_neg (by decide)]; omega)

/-- **A float literal is read** as the float nearest to its decimal. -/
theorem Literal.reads {negative : Bool} (l : Literal) {rest : List Char} {n : Number} (hrest : EndsNumber rest)
    (h : nearest? negative l.mantissa l.scale = some n) : Reads (number negative) (l.text ++ rest) n rest := by
  have hdigit : ∀ c ∈ rest.head?, isDigit c = false := fun c hc => (hrest c hc).1
  have hafter : Reads (afterDigits negative l.whole) (l.tail ++ rest) n rest := by
    rw [mantissa, scale] at h
    rw [tail]
    by_cases hfraction : l.fraction = []
    · -- without a fraction there is an exponent
      obtain ⟨e, he⟩ := Option.isSome_iff_exists.1 (l.isReal.resolve_left fun hne => hne hfraction)
      rw [if_pos hfraction, he, List.nil_append, Option.elim_some]
      rw [hfraction, he, List.append_nil, List.length_nil, Option.getD_some, Int.natCast_zero, Int.sub_zero] at h
      refine (reads_peek? _).bind ?_
      exact reads_exponentPart (l.exponent_le e he) hdigit (by rwa [Int.zero_add])
    · have hempty : l.fraction.isEmpty = false := by simpa using hfraction
      rw [if_neg hfraction, List.append_assoc, List.cons_append]
      refine (reads_peek? _).bind ((reads_skip '.' _).bind ?_)
      cases he : l.exponent with
      | none =>
        rw [he, Option.getD_none] at h
        rw [Option.elim_none, List.nil_append]
        refine (reads_digits l.fraction_digits hdigit).bind ?_
        rw [hempty]
        refine (reads_peek? _).bind ?_
        have hno : ¬(rest.head? = some 'e' ∨ rest.head? = some 'E') := by
          rintro (hc | hc)
          · exact (hrest _ hc).2.2.1 rfl
          · exact (hrest _ hc).2.2.2 rfl
        simp only [hno, if_false]
        exact reads_realOf rest (by rwa [Int.zero_sub] at h)
      | some e =>
        rw [he, Option.getD_some] at h
        rw [Option.elim_some]
        have hletter : ∀ c ∈ (exponentText e ++ rest).head?, isDigit c = false := by
          rintro c ⟨⟩
          decide
        refine (reads_digits l.fraction_digits hletter).bind ?_
        rw [hempty]
        refine (reads_peek? _).bind ?_
        exact reads_exponentPart (l.exponent_le e he) hdigit (by rwa [Int.add_comm, ← Int.sub_eq_add_neg])
  rw [text, List.append_assoc]
  refine reads_number l.whole_digits l.whole_ne_nil l.lead ?_ hafter
  intro c hc
  rw [tail] at hc
  by_cases hfraction : l.fraction = []
  · obtain ⟨e, he⟩ := Option.isSome_iff_exists.1 (l.isReal.resolve_left fun hne => hne hfraction)
    rw [if_pos hfraction, he] at hc
    obtain rfl := Option.some.inj hc
    decide
  · rw [if_neg hfraction] at hc
    obtain rfl := Option.some.inj hc
    decide

end LiveForm.Json.Reader

namespace LiveForm

open Json.Reader

/-! ## Legible numbers -/

/-- The text of the number is a sign or none, and a literal that is read as the number. -/
def Number.Legible (n : Number) : Prop :=
  ∃ negative d ds, n.text.toList = (if negative then ['-'] else []) ++ d :: ds ∧ isDigit d = true ∧
    ds.all isNumeric = true ∧ ∀ rest, EndsNumber rest → Reads (number negative) (d :: ds ++ rest) n rest

/-- Integers are legible. -/
theorem Number.legible_int (n : Int) (h : InWordRange n) : (Number.int n h).Legible := by
  have hlead : Nat.toDigits 10 n.natAbs = ['0'] ∨ (Nat.toDigits 10 n.natAbs).head? ≠ some '0' := by
    by_cases hn : n.natAbs = 0
    · exact .inl (by rw [hn, Nat.toDigits_zero])
    · exact .inr (head?_toDigits hn)
  have hall := all_isDigit_toDigits n.natAbs
  have hreads (negative : Bool)
      (hinteger : integerOf negative (valueOfDigits (Nat.toDigits 10 n.natAbs)) = pure (.int n h)) (rest : List Char)
      (hrest : EndsNumber rest) :
      Reads (number negative) (Nat.toDigits 10 n.natAbs ++ rest) (.int n h) rest :=
    reads_number hall Nat.toDigits_ne_nil hlead (fun c hc => (hrest c hc).1) (reads_afterDigits_integer hrest hinteger)
  rw [valueOfDigits_toDigits] at hreads
  obtain ⟨d, ds, hdigits⟩ := List.exists_cons_of_ne_nil (Nat.toDigits_ne_nil (n := n.natAbs) (b := 10))
  rw [hdigits] at hreads hall
  have hd : isDigit d = true := (List.all_eq_true.1 hall) d List.mem_cons_self
  have hds : ds.all isNumeric = true := by
    rw [List.all_cons, Bool.and_eq_true] at hall
    exact all_isNumeric hall.2
  have htext : (toString n).toList = (if decide (n < 0) then ['-'] else []) ++ d :: ds := by
    rw [toList_toString, hdigits]
    simp only [decide_eq_true_iff]
  refine ⟨decide (n < 0), d, ds, htext, hd, hds, hreads _ ?_⟩
  by_cases hneg : n < 0
  · have hmagnitude : 0 < n.natAbs ∧ n.natAbs ≤ 2 ^ 63 := by
      have := h.1
      omega
    have hvalue : -(n.natAbs : Int) = n := by omega
    simp only [integerOf, hneg, decide_true, if_true, dif_pos hmagnitude, hvalue]
  · have hmagnitude : n.natAbs < 2 ^ 64 := by
      have := h.2
      omega
    have hvalue : (n.natAbs : Int) = n := by omega
    simp only [integerOf, hneg, decide_false, Bool.false_eq_true, if_false, dif_pos hmagnitude, hvalue]

end LiveForm

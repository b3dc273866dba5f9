import LiveForm.Json.Printer
import LiveForm.Proofs.Spelling.Shortest
import LiveForm.Proofs.Json.Literal

/-!
# Floats are read back from their text

The text of a float is a literal (`exists_literal`): its digits without zeros at the end, around a point or before an
exponent, with zeros in between where the point stands outside of the digits. Wherever the point is put, the literal
is one and the same decimal. This decimal lies around the float, so it is read as the float
(`Number.legible_real`), with a sign in front that is kept for zeros, too.
-/

namespace LiveForm.Decimal

open Json.Reader

/-! ## Digits as characters -/

/-- The characters of digits. -/
def chars (ds : List Nat) : List Char := ds.map fun d => Char.ofNat ('0'.toNat + d)

theorem toList_digitText (ds : List Nat) : (digitText ds).toList = chars ds := String.toList_ofList

theorem toList_zeros (n : Nat) : (zeros n).toList = List.replicate n '0' := String.toList_ofList

theorem chars_append (ds es : List Nat) : chars (ds ++ es) = chars ds ++ chars es := List.map_append

theorem length_chars (ds : List Nat) : (chars ds).length = ds.length := List.length_map _

theorem chars_zeros (n : Nat) : chars (List.replicate n 0) = List.replicate n '0' := List.map_replicate

theorem chars_digitsOf (n : Nat) : chars (digitsOf n) = Nat.toDigits 10 n := by
  rw [chars, digitsOf, List.map_map]
  refine (List.map_congr_left (g := id) fun c hc => ?_).trans (List.map_id _)
  have hdigit : c.isDigit = true := Nat.isDigit_of_mem_toDigits (by decide) (by decide) hc
  have hzero : '0'.toNat ≤ c.toNat := (Char.isDigit_iff_toNat.1 hdigit).1
  show Char.ofNat ('0'.toNat + (c.toNat - '0'.toNat)) = c
  rw [Nat.add_sub_cancel' hzero, Char.ofNat_toNat]

/-- Zeros at the end are dropped, and nothing else. -/
theorem exists_dropped (ds : List Nat) :
    ∃ n, ds = (ds.reverse.dropWhile (· == 0)).reverse ++ List.replicate n 0 := by
  have hzeros : ds.reverse.takeWhile (· == 0) = List.replicate (ds.reverse.takeWhile (· == 0)).length 0 :=
    List.eq_replicate_of_mem fun d hd => eq_of_beq (List.mem_takeWhile_imp (p := (· == 0)) hd)
  refine ⟨(ds.reverse.takeWhile (· == 0)).length, ?_⟩
  have hsplit := List.takeWhile_append_dropWhile (p := (· == 0)) (l := ds.reverse)
  rw [hzeros] at hsplit
  have := congrArg List.reverse hsplit
  rw [List.reverse_append, List.reverse_reverse, List.reverse_replicate] at this
  exact this.symm

/-- Digits that write a number: the digits `0.d₁d₂…` times a power of ten. -/
structure Writes (d : Digits) (q : ℚ) : Prop where
  digits : (chars d.digits).all isDigit = true
  ne_nil : d.digits ≠ []
  lead : (chars d.digits).head? ≠ some '0'
  value : (valueOfDigits (chars d.digits) : ℚ) * 10 ^ (d.point - d.digits.length) = q

/-- The digits of a decimal write it, as zeros that are dropped move no digit. -/
theorem writes_ofDecimal {c : Nat} (hc : 0 < c) (k : Int) : Writes (.ofDecimal c k) (c * 10 ^ k) := by
  obtain ⟨n, hn⟩ := exists_dropped (digitsOf c)
  generalize hkept : ((digitsOf c).reverse.dropWhile (· == 0)).reverse = kept at hn
  have hdigits : Digits.ofDecimal c k = ⟨kept, (digitsOf c).length + k⟩ := by
    rw [Digits.ofDecimal, hkept]
  have hchars : Nat.toDigits 10 c = chars kept ++ List.replicate n '0' := by
    rw [← chars_digitsOf, hn, chars_append, chars_zeros]
  have hlead := head?_toDigits hc.ne'
  have hne : kept ≠ [] := by
    rintro rfl
    have hzeros : Nat.toDigits 10 c = List.replicate n '0' := hchars
    cases n with
    | zero => exact Nat.toDigits_ne_nil hzeros
    | succ n => rw [hzeros] at hlead; exact hlead rfl
  rw [hdigits]
  refine ⟨?_, hne, ?_, ?_⟩
  · have hall := all_isDigit_toDigits c
    rw [hchars, List.all_append, Bool.and_eq_true] at hall
    exact hall.1
  · obtain ⟨d, ds, rfl⟩ := List.exists_cons_of_ne_nil hne
    rw [hchars] at hlead
    exact hlead
  · have hvalue : c = 10 ^ n * valueOfDigits (chars kept) := by
      have := valueOfDigits_append (chars kept) (List.replicate n '0')
      rwa [← hchars, valueOfDigits_toDigits, valueOfDigits_zeros, List.length_replicate, Nat.add_zero] at this
    have hlength : ((digitsOf c).length : Int) + k - kept.length = n + k := by
      rw [hn, List.length_append, List.length_replicate]
      push_cast
      ring
    have hvalue : (c : ℚ) = 10 ^ n * valueOfDigits (chars kept) := by exact_mod_cast hvalue
    show (valueOfDigits (chars kept) : ℚ) * 10 ^ (((digitsOf c).length : Int) + k - kept.length) = _
    rw [hlength, zpow_add₀ (by norm_num), zpow_natCast, hvalue]
    ring

/-! ## Literals -/

/-- The literal of digits with a point among them, or before an exponent. -/
def Writes.split {d : Digits} {q : ℚ} (h : Writes d q) (n : Nat) (exponent : Option Int) (hn : 0 < n)
    (hreal : n < d.digits.length ∨ exponent.isSome = true) (hsmall : ∀ e ∈ exponent, e.natAbs ≤ greatestExponent) :
    Literal where
  whole := chars (d.digits.take n)
  fraction := chars (d.digits.drop n)
  exponent := exponent
  whole_digits := by
    have hall := h.digits
    rw [← List.take_append_drop n d.digits, chars_append, List.all_append, Bool.and_eq_true] at hall
    exact hall.1
  whole_ne_nil := by
    obtain ⟨first, rest, hdigits⟩ := List.exists_cons_of_ne_nil h.ne_nil
    obtain ⟨n, rfl⟩ := Nat.exists_eq_add_one.2 hn
    rw [hdigits]
    exact List.cons_ne_nil _ _
  lead := by
    obtain ⟨first, rest, hdigits⟩ := List.exists_cons_of_ne_nil h.ne_nil
    obtain ⟨n, rfl⟩ := Nat.exists_eq_add_one.2 hn
    have hlead := h.lead
    rw [hdigits] at hlead ⊢
    exact .inr hlead
  fraction_digits := by
    have hall := h.digits
    rw [← List.take_append_drop n d.digits, chars_append, List.all_append, Bool.and_eq_true] at hall
    exact hall.2
  isReal := hreal.imp_left fun hlt hnil => by
    have hlength := congrArg List.length hnil
    rw [length_chars, List.length_drop, List.length_nil] at hlength
    omega
  exponent_le := hsmall

/-- The point and the exponent together put the digits where they belong. -/
theorem Writes.split_value {d : Digits} {q : ℚ} (h : Writes d q) {n : Nat} {exponent : Option Int} {hn : 0 < n}
    {hreal : n < d.digits.length ∨ exponent.isSome = true} {hsmall : ∀ e ∈ exponent, e.natAbs ≤ greatestExponent}
    (hplace : exponent.getD 0 - (d.digits.length - n : ℕ) = d.point - d.digits.length) :
    ((h.split n exponent hn hreal hsmall).mantissa : ℚ) * 10 ^ (h.split n exponent hn hreal hsmall).scale = q := by
  have hmantissa : (h.split n exponent hn hreal hsmall).mantissa = valueOfDigits (chars d.digits) := by
    rw [Literal.mantissa, split, ← chars_append, List.take_append_drop]
  have hscale : (h.split n exponent hn hreal hsmall).scale = d.point - d.digits.length := by
    rw [Literal.scale, split, length_chars, List.length_drop, hplace]
  rw [hmantissa, hscale, h.value]

/-- Plain text is a literal without an exponent. -/
theorem exists_plain {d : Digits} {q : ℚ} (h : Writes d q) :
    ∃ l : Literal, d.plain.toList = l.text ∧ (l.mantissa : ℚ) * 10 ^ l.scale = q := by
  have hvalue := h.value
  have hne : chars d.digits ≠ [] := fun hnil => h.ne_nil (List.map_eq_nil_iff.1 hnil)
  rw [Digits.plain]
  split
  · -- zeros between the point and the digits
    next hpoint =>
    obtain ⟨n, hn⟩ := Int.exists_eq_neg_ofNat hpoint
    have htoNat : (-d.point).toNat = n := by omega
    have hfraction : List.replicate n '0' ++ chars d.digits ≠ [] := List.append_ne_nil_of_right_ne_nil _ hne
    refine ⟨{ whole := ['0'], fraction := List.replicate n '0' ++ chars d.digits, exponent := none
              whole_digits := by decide, whole_ne_nil := by decide, lead := .inl rfl
              fraction_digits := ?_, isReal := .inl hfraction, exponent_le := nofun }, ?_, ?_⟩
    · rw [List.all_append, all_isDigit_zeros, h.digits]
      rfl
    · simp [Literal.text, Literal.tail, hne, toList_zeros, toList_digitText, htoNat]
    · have hmantissa : valueOfDigits (['0'] ++ (List.replicate n '0' ++ chars d.digits)) =
          valueOfDigits (chars d.digits) := by
        rw [← List.append_assoc, ← List.replicate_one, List.replicate_append_replicate, valueOfDigits_zeros_append]
      have hscale : (0 : ℤ) - (List.replicate n '0' ++ chars d.digits).length = d.point - d.digits.length := by
        rw [List.length_append, List.length_replicate, length_chars]
        omega
      show (valueOfDigits (['0'] ++ (List.replicate n '0' ++ chars d.digits)) : ℚ) *
        10 ^ ((0 : ℤ) - (List.replicate n '0' ++ chars d.digits).length) = q
      rw [hmantissa, hscale, hvalue]
  · next hpoint =>
    split
    · -- zeros between the digits and the point
      next hlong =>
      obtain ⟨n, hn⟩ : ∃ n : Nat, d.point - d.digits.length = n := ⟨(d.point - d.digits.length).toNat, by omega⟩
      have htoNat : (d.point - d.digits.length).toNat = n := by omega
      refine ⟨{ whole := chars d.digits ++ List.replicate n '0', fraction := ['0'], exponent := none
                whole_digits := ?_, whole_ne_nil := List.append_ne_nil_of_left_ne_nil hne _, lead := .inr ?_
                fraction_digits := by decide, isReal := .inl (by decide), exponent_le := nofun }, ?_, ?_⟩
      · rw [List.all_append, all_isDigit_zeros, h.digits]
        rfl
      · obtain ⟨first, rest, hchars⟩ := List.exists_cons_of_ne_nil hne
        have hlead := h.lead
        rw [hchars] at hlead ⊢
        exact hlead
      · simp [Literal.text, Literal.tail, toList_zeros, toList_digitText, htoNat]
      · have hmantissa : valueOfDigits (chars d.digits ++ List.replicate n '0' ++ ['0']) =
            10 ^ (n + 1) * valueOfDigits (chars d.digits) := by
          rw [List.append_assoc, ← List.replicate_one, List.replicate_append_replicate, valueOfDigits_append,
            valueOfDigits_zeros, List.length_replicate, Nat.add_zero]
        show (valueOfDigits (chars d.digits ++ List.replicate n '0' ++ ['0']) : ℚ) * 10 ^ (0 - 1 : ℤ) = q
        rw [hmantissa, ← hvalue, hn, zpow_natCast, zero_sub, zpow_neg_one]
        push_cast
        ring
    · next hshort =>
      have hn : 0 < d.point.toNat := by omega
      have hlt : d.point.toNat < d.digits.length := by omega
      have hfraction : chars (d.digits.drop d.point.toNat) ≠ [] := by
        intro hnil
        have hlength := congrArg List.length hnil
        rw [length_chars, List.length_drop, List.length_nil] at hlength
        omega
      refine ⟨h.split d.point.toNat none hn (.inl hlt) nofun, ?_, h.split_value ?_⟩
      · simp [Literal.text, Literal.tail, Writes.split, hfraction, toList_digitText]
      · rw [Option.getD_none]
        omega

/-- An exponent is written with its sign. -/
theorem toList_mark (e : Int) :
    ((if true && decide (0 ≤ e) then "e+" else "e") ++ toString e).toList = exponentText e := by
  rw [String.toList_append, toList_toString, exponentText]
  by_cases hneg : e < 0
  · have hnot : (true && decide (0 ≤ e)) = false := by simpa using hneg
    rw [hnot, if_pos hneg, if_pos hneg]
    rfl
  · have hnot : (true && decide (0 ≤ e)) = true := by simpa using hneg
    rw [hnot, if_neg hneg, if_neg hneg]
    rfl

/-- Scientific text is a literal with an exponent. -/
theorem exists_scientific {d : Digits} {q : ℚ} (h : Writes d q) (hsmall : (d.point - 1).natAbs ≤ greatestExponent) :
    ∃ l : Literal, (d.scientific true).toList = l.text ∧ (l.mantissa : ℚ) * 10 ^ l.scale = q := by
  have hpos : 0 < d.digits.length := List.length_pos_iff.2 h.ne_nil
  refine ⟨h.split 1 (some (d.point - 1)) Nat.one_pos (.inr rfl) (by rintro e ⟨⟩; exact hsmall), ?_, h.split_value ?_⟩
  · have hfraction : (if d.digits.length ≤ 1 then "" else "." ++ digitText (d.digits.drop 1)).toList =
        if chars (d.digits.drop 1) = [] then [] else '.' :: chars (d.digits.drop 1) := by
      have hnil : chars (d.digits.drop 1) = [] ↔ d.digits.length ≤ 1 := by
        rw [← List.length_eq_zero_iff, length_chars, List.length_drop]
        omega
      simp only [hnil]
      split
      · rfl
      · rw [String.toList_append, toList_digitText]
        rfl
    rw [Digits.scientific, String.append_assoc, String.toList_append, String.toList_append, toList_mark,
      toList_digitText,
      hfraction, List.append_assoc]
    rfl
  · rw [Option.getD_some]
    omega

/-- **The text of a float's digits is a literal** of a decimal around the float. -/
theorem exists_literal {m : Nat} {e : Int} (h : Place.Stored m e) : ∃ l : Literal,
    ((shortest m e).render Json.floatLayout).toList = l.text ∧
      Place.RoundsTo m e (l.mantissa * 10 ^ l.scale) := by
  obtain ⟨c, k, hshortest, hc, hq⟩ := shortest_roundsTo h
  obtain ⟨hsmall, hbig⟩ := hq.size h hc
  have hwrites := writes_ofDecimal hc k
  have hpoint : (Digits.ofDecimal c k).point = width c + k := by
    rw [Digits.ofDecimal, digitsOf, List.length_map]
    rfl
  have hrender : ∃ l : Literal, ((Digits.ofDecimal c k).render Json.floatLayout).toList = l.text ∧
      (l.mantissa : ℚ) * 10 ^ l.scale = c * 10 ^ k := by
    rw [Digits.render]
    split
    · exact exists_plain hwrites
    · refine exists_scientific hwrites ?_
      have hgreatest : greatestExponent = 2 ^ 31 - 1 := rfl
      omega
  obtain ⟨l, htext, hvalue⟩ := hrender
  exact ⟨l, by rw [hshortest, htext], by rw [hvalue]; exact hq⟩

end LiveForm.Decimal

namespace LiveForm

open Json.Reader Place Float.Model Float.Model.UnpackedFloat

/-! ## Floats -/

/-- A literal in front of which the sign of a float stands. -/
theorem Number.legible_of_literal {x : Float} (hx : x.isFinite = true) (negative : Bool) (l : Literal)
    (htext : (Number.real x hx).text.toList = (if negative then ['-'] else []) ++ l.text)
    (h : nearest? negative l.mantissa l.scale = some (.real x hx)) : (Number.real x hx).Legible := by
  obtain ⟨d, ds, hwhole⟩ := List.exists_cons_of_ne_nil l.whole_ne_nil
  have hd : isDigit d = true := (List.all_eq_true.1 l.whole_digits) d (by rw [hwhole]; exact List.mem_cons_self)
  have hliteral : l.text = d :: (ds ++ l.tail) := by rw [Literal.text, hwhole, List.cons_append]
  have hall := l.all_text
  rw [hliteral, List.all_cons, Bool.and_eq_true] at hall
  refine ⟨negative, d, ds ++ l.tail, by rw [htext, hliteral], hd, hall.2, fun rest hrest => ?_⟩
  rw [← hliteral]
  exact l.reads hrest h

/-- What is nearest to a literal is the float, if it is stored as the float is. -/
theorem nearest?_eq (negative : Bool) {x : Float} (hx : x.isFinite = true) {mantissa : Nat} {scale : Int}
    (h : (if negative then -Decimal.nearest mantissa scale else Decimal.nearest mantissa scale).toModel.unpack =
      x.toModel.unpack) : nearest? negative mantissa scale = some (.real x hx) := by
  have heq : x = if negative then -Decimal.nearest mantissa scale else Decimal.nearest mantissa scale :=
    eq_of_unpack h.symm hx
  have hfinite := hx
  rw [heq] at hfinite
  rw [nearest?, Number.ofFloat?]
  simp only [dif_pos hfinite, heq]

/-- The text of a finite float, by its sign and its magnitude. -/
theorem toList_render {x : Float} {b : Binary} (h : Binary.ofFloat? x = some b) :
    (Decimal.render Json.floatLayout x).toList = (if b.negative then ['-'] else []) ++
      (if b.mantissa = 0 then "0.0" else (Decimal.shortest b.mantissa b.exponent).render Json.floatLayout).toList := by
  rw [Decimal.render, Decimal.render?, h, Option.map_some, Option.getD_some]
  have hsigned : (b.negative && (Json.floatLayout.signedZero || b.mantissa != 0)) = b.negative := Bool.and_true _
  have hsign : (if b.negative then "-" else "").toList = if b.negative then ['-'] else [] := by
    cases b.negative <;> rfl
  rw [hsigned]
  by_cases hm : b.mantissa = 0
  · rw [if_pos hm, if_pos hm, String.toList_append, hsign]
  · rw [if_neg hm, if_neg hm, String.toList_append, hsign]

/-- The literal of zero. -/
def zeroLiteral : Literal where
  whole := ['0']
  fraction := ['0']
  exponent := none
  whole_digits := by decide
  whole_ne_nil := by decide
  lead := .inl rfl
  fraction_digits := by decide
  isReal := .inl (by decide)
  exponent_le := nofun

theorem unpack_signedZero (negative : Bool) :
    (if negative then -(0.0 : Float) else 0.0).toModel.unpack = .zero (if negative then .negative else .positive) := by
  cases negative <;> rfl

/-- Floats are legible. -/
theorem Number.legible_real (x : Float) (hx : x.isFinite = true) : (Number.real x hx).Legible := by
  obtain ⟨b, hb⟩ := exists_binary hx
  have htext : (Number.real x hx).text.toList = _ := toList_render hb
  rw [Binary.ofFloat?] at hb
  cases hunpack : x.toModel.unpack with
  | notANumber => rw [hunpack] at hb; cases hb
  | infinity s => rw [hunpack] at hb; cases hb
  | zero s =>
    rw [hunpack] at hb
    have hnearest : Decimal.nearest zeroLiteral.mantissa zeroLiteral.scale = 0.0 := by
      rw [Decimal.nearest, if_pos (Or.inl (by decide))]
    cases s with
    | positive =>
      cases hb
      refine legible_of_literal hx false zeroLiteral htext (nearest?_eq false hx ?_)
      rw [hnearest]
      exact (unpack_signedZero false).trans hunpack.symm
    | negative =>
      cases hb
      refine legible_of_literal hx true zeroLiteral htext (nearest?_eq true hx ?_)
      rw [hnearest]
      exact (unpack_signedZero true).trans hunpack.symm
  | finite s m e hm =>
    have hstored : Stored m e := ⟨hm, normal_or_short hunpack⟩
    obtain ⟨l, hl, hq⟩ := Decimal.exists_literal hstored
    have hpos : 0 < l.mantissa := by
      refine Nat.pos_of_ne_zero fun hzero => ?_
      have hlower := (hq.bounds hstored).1
      rw [hzero, Nat.cast_zero, zero_mul] at hlower
      exact absurd hlower (not_lt.2 (by positivity))
    have hnearest := unpack_nearest hstored hpos hq
    rw [hunpack] at hb
    cases s with
    | positive =>
      cases hb
      rw [if_neg hm.ne', hl] at htext
      exact legible_of_literal hx false l htext (nearest?_eq false hx (hnearest.trans hunpack.symm))
    | negative =>
      cases hb
      rw [if_neg hm.ne', hl] at htext
      exact legible_of_literal hx true l htext
        (nearest?_eq true hx ((unpack_neg_stored hstored hnearest).trans hunpack.symm))

/-- **Every number is legible.** -/
theorem Number.legible (n : Number) : n.Legible := by
  cases n with
  | int n h => exact legible_int n h
  | real x h => exact legible_real x h

end LiveForm

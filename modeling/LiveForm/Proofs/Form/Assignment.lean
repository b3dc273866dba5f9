import Mathlib.Data.List.DropRight
import Mathlib.Data.List.TakeDrop
import Mathlib.Data.List.TakeWhile
import LiveForm.Form.Assignment
import LiveForm.Proofs.Json.RoundTrip

/-!
# Assignments are read back

An edit on the command line is divided at its first equals sign (`splitAssignment?_eq_some`), and both parts are
trimmed. What trimming is, is said without the scan from either end: the text is the trimmed one between blanks, and
the trimmed one has no blanks at its ends (`Text.trim_eq_iff`). No value starts or ends with a blank in its compact
text, so trimming finds this text again, and the reader the value (`assignment_reads_back`).
-/

namespace LiveForm

namespace Text

/-! ## Trimming -/

/-- Without blanks at either end. -/
def Trimmed (s : String) : Prop :=
  (∀ c ∈ s.toList.head?, isBlank c = false) ∧ ∀ c ∈ s.toList.getLast?, isBlank c = false

theorem dropWhile_blanks {cs rest : List Char} (hne : cs ≠ []) (h : ∀ c ∈ cs.head?, isBlank c = false) :
    (cs ++ rest).dropWhile isBlank = cs ++ rest := by
  obtain ⟨c, cs, rfl⟩ := List.exists_cons_of_ne_nil hne
  rw [List.cons_append, List.dropWhile_cons_of_neg (by rw [h c rfl]; exact Bool.false_ne_true)]

/-- Trimming leaves what stands between the blanks. -/
theorem trim_append {before s after : String} (hbefore : isBlankText before = true) (hs : Trimmed s)
    (hafter : isBlankText after = true) : trim (before ++ s ++ after) = s := by
  rw [isBlankText, List.all_eq_true] at hbefore hafter
  rw [trim, trimLeft, String.toList_append, String.toList_append, List.append_assoc,
    List.dropWhile_append_of_pos hbefore]
  by_cases hne : s.toList = []
  · rw [hne, List.nil_append, List.dropWhile_eq_nil_iff.2 hafter, String.toList_eq_nil_iff.1 hne]
    rfl
  · have hafter : ∀ c ∈ after.toList.reverse, isBlank c = true := fun c hc => hafter c (List.mem_reverse.1 hc)
    have hkept : (s.toList.reverse ++ []).dropWhile isBlank = s.toList.reverse ++ [] :=
      dropWhile_blanks (mt List.reverse_eq_nil_iff.1 hne) (by rw [List.head?_reverse]; exact hs.2)
    rw [List.append_nil] at hkept
    rw [dropWhile_blanks hne hs.1, trimRight, List.reverse_append, List.dropWhile_append_of_pos hafter, hkept,
      List.reverse_reverse, String.ofList_toList]

theorem trimmed_trim (s : String) : Trimmed (trim s) := by
  rw [Trimmed, trim, String.toList_ofList]
  constructor
  · intro c hc
    obtain ⟨blanks, hprefix⟩ := List.rdropWhile_prefix isBlank (l := trimLeft s.toList)
    have hhead := List.head?_dropWhile_not isBlank s.toList
    have hkept : (s.toList.dropWhile isBlank).head? = some c := by
      rw [← trimLeft, ← hprefix]
      exact List.mem_head?_append_of_mem_head? hc
    rw [hkept] at hhead
    exact hhead
  · intro c hc
    have hhead := List.head?_dropWhile_not isBlank (trimLeft s.toList).reverse
    rw [trimRight, List.getLast?_reverse, Option.mem_def] at hc
    rw [hc] at hhead
    exact hhead

/-- Blanks are all that trimming takes away. -/
theorem exists_blanks (s : String) : ∃ before after, s = before ++ trim s ++ after ∧
    isBlankText before = true ∧ isBlankText after = true := by
  have hleft := List.takeWhile_append_dropWhile (p := isBlank) (l := s.toList)
  have hright := List.rdropWhile_append_rtakeWhile (p := isBlank) (l := s.toList.dropWhile isBlank)
  refine ⟨String.ofList (s.toList.takeWhile isBlank), String.ofList ((s.toList.dropWhile isBlank).rtakeWhile isBlank),
    ?_, ?_, ?_⟩
  · rw [trim, ← String.ofList_append, ← String.ofList_append, List.append_assoc]
    refine String.toList_injective (hleft.symm.trans ?_)
    rw [String.toList_ofList]
    exact congrArg _ hright.symm
  · rw [isBlankText, String.toList_ofList, List.all_eq_true]
    exact fun c hc => List.mem_takeWhile_imp hc
  · rw [isBlankText, String.toList_ofList, List.all_eq_true]
    exact fun c hc => List.mem_rtakeWhile_imp hc

/-- **What is trimmed stands between blanks** and has none at its ends. -/
theorem trim_eq_iff {s t : String} : trim s = t ↔
    Trimmed t ∧ ∃ before after, s = before ++ t ++ after ∧ isBlankText before = true ∧ isBlankText after = true := by
  constructor
  · rintro rfl
    exact ⟨trimmed_trim s, exists_blanks s⟩
  · rintro ⟨ht, before, after, rfl, hbefore, hafter⟩
    exact trim_append hbefore ht hafter

theorem trim_eq_empty_iff {s : String} : trim s = "" ↔ isBlankText s = true := by
  rw [trim_eq_iff]
  constructor
  · rintro ⟨-, before, after, rfl, hbefore, hafter⟩
    rw [isBlankText] at hbefore hafter ⊢
    rw [String.append_empty, String.toList_append, List.all_append, hbefore, hafter]
    rfl
  · intro h
    exact ⟨⟨nofun, nofun⟩, s, "", by rw [String.append_empty, String.append_empty], h, rfl⟩

theorem mem_of_mem_trim {s : String} {c : Char} (h : c ∈ (trim s).toList) : c ∈ s.toList := by
  obtain ⟨before, after, hs, -⟩ := exists_blanks s
  rw [hs, String.toList_append, String.toList_append]
  exact List.mem_append_left _ (List.mem_append_right _ h)

theorem trimmed_compact (v : Json) : Trimmed v.compact := by
  obtain ⟨c, cs, hhead, hc, -⟩ := v.compact_head
  obtain ⟨ds, d, hlast, hd⟩ := v.compact_last
  constructor
  · rw [hhead]
    rintro _ ⟨⟩
    exact hc
  · rw [hlast, List.getLast?_concat]
    rintro _ ⟨⟩
    exact hd

end Text

/-! ## The first equals sign -/

/-- **The parts of an assignment** are those before and after its first equals sign. -/
theorem splitAssignment?_eq_some {raw before after : String} :
    splitAssignment? raw = some (before, after) ↔ raw = before ++ "=" ++ after ∧ '=' ∉ before.toList := by
  rw [splitAssignment?, List.span_eq_takeWhile_dropWhile]
  constructor
  · intro h
    have hsplit := List.takeWhile_append_dropWhile (p := (· != '=')) (l := raw.toList)
    have hhead := List.head?_dropWhile_not (· != '=') raw.toList
    split at h
    · cases h
    · next cs c rest heq =>
      obtain ⟨rfl, hdrop⟩ := Prod.mk.inj heq
      cases h
      rw [hdrop] at hsplit hhead
      have hc : c = '=' := by simpa using hhead
      subst hc
      refine ⟨String.toList_injective ?_, ?_⟩
      · simpa using hsplit.symm
      · rw [String.toList_ofList]
        intro hmem
        exact absurd (List.mem_takeWhile_imp hmem) (by decide)
  · rintro ⟨rfl, hbefore⟩
    have hother : ∀ c ∈ before.toList, (c != '=') = true := by
      rintro c hc
      rw [bne_iff_ne]
      rintro rfl
      exact hbefore hc
    have htext : (before ++ "=" ++ after).toList = before.toList ++ '=' :: after.toList := by simp
    rw [htext, List.takeWhile_append_of_pos hother, List.dropWhile_append_of_pos hother,
      List.takeWhile_cons_of_neg (by decide), List.dropWhile_cons_of_neg (by decide), List.append_nil]
    simp

/-- **An edit** is its id, trimmed, and the value that is read, where there is an equals sign and an id before it. -/
theorem parseAssignment?_eq_some {raw id : String} {v : Json} : parseAssignment? raw = some (id, v) ↔
    ∃ before after, raw = before ++ "=" ++ after ∧ '=' ∉ before.toList ∧ Text.isBlankText before = false ∧
      id = Text.trim before ∧ v = (Json.read? (Text.trim after)).getD (.str after) := by
  rw [parseAssignment?, Option.bind_eq_bind, Option.bind_eq_some_iff]
  constructor
  · rintro ⟨⟨before, after⟩, hsplit, h⟩
    obtain ⟨hraw, hbefore⟩ := splitAssignment?_eq_some.1 hsplit
    dsimp only at h
    split at h
    · cases h
    · next hne =>
      cases h
      rw [String.isEmpty_iff, Text.trim_eq_empty_iff, Bool.not_eq_true] at hne
      exact ⟨before, after, hraw, hbefore, hne, rfl, rfl⟩
  · rintro ⟨before, after, hraw, hbefore, hblank, rfl, rfl⟩
    refine ⟨(before, after), splitAssignment?_eq_some.2 ⟨hraw, hbefore⟩, ?_⟩
    rw [← Bool.not_eq_true, ← Text.trim_eq_empty_iff, ← String.isEmpty_iff] at hblank
    exact if_neg hblank

/-- What is written around an id and a value is trimmed away, and the value is read. -/
theorem parseAssignment?_compact {id : String} (hne : id ≠ "") (hid : '=' ∉ id.toList) (htrimmed : Text.Trimmed id)
    {v : Json.Tidy} (hdepth : v.1.nesting ≤ Json.greatestDepth) {a b c d : String}
    (ha : Text.isBlankText a = true) (hb : Text.isBlankText b = true) (hc : Text.isBlankText c = true)
    (hd : Text.isBlankText d = true) :
    parseAssignment? (a ++ id ++ b ++ "=" ++ (c ++ v.1.compact ++ d)) = some (id, v.1) := by
  have hequals {blanks : String} (h : Text.isBlankText blanks = true) : '=' ∉ blanks.toList := fun hmem =>
    absurd (List.all_eq_true.1 h _ hmem) (by decide)
  have htrim : Text.trim (a ++ id ++ b) = id := Text.trim_append ha htrimmed hb
  refine parseAssignment?_eq_some.2 ⟨a ++ id ++ b, c ++ v.1.compact ++ d, rfl, ?_, ?_, htrim.symm, ?_⟩
  · simp only [String.toList_append, List.mem_append, not_or]
    exact ⟨⟨hequals ha, hid⟩, hequals hb⟩
  · rw [← Bool.not_eq_true, ← Text.trim_eq_empty_iff, htrim]
    exact hne
  · rw [Text.trim_append hc (Text.trimmed_compact v.1) hd, Json.Tidy.read?_compact hdepth, Option.getD_some]

/-- **Assignments are read back.** A text is an edit just if it has an equals sign and something else than blanks
before the first one, and then the id has no equals sign and no blanks at its ends. Every value that a document may
hold is read back from its compact text behind an id and an equals sign, with any blanks around both. What is behind
the first equals sign and is, without the blanks around it, no JSON, is the value as a text, blanks and all. -/
theorem assignment_reads_back :
    (∀ raw, (parseAssignment? raw).isSome = true ↔
      ∃ before after, raw = before ++ "=" ++ after ∧ '=' ∉ before.toList ∧ Text.isBlankText before = false) ∧
    (∀ raw id v, parseAssignment? raw = some (id, v) → '=' ∉ id.toList ∧ Text.Trimmed id ∧ id ≠ "") ∧
    (∀ id, id ≠ "" → '=' ∉ id.toList → Text.Trimmed id → ∀ v : Json.Tidy, v.1.nesting ≤ 127 →
      ∀ a b c d, Text.isBlankText a = true → Text.isBlankText b = true → Text.isBlankText c = true →
        Text.isBlankText d = true →
        parseAssignment? (a ++ id ++ b ++ "=" ++ (c ++ v.1.compact ++ d)) = some (id, v.1)) ∧
    ∀ before after, '=' ∉ before.toList → Text.isBlankText before = false → Json.read? (Text.trim after) = none →
      parseAssignment? (before ++ "=" ++ after) = some (Text.trim before, .str after) := by
  refine ⟨fun raw => ?_, fun raw id v h => ?_, ?_, fun before after hbefore hblank hread => ?_⟩
  · rw [Option.isSome_iff_exists]
    constructor
    · rintro ⟨⟨id, v⟩, h⟩
      obtain ⟨before, after, hraw, hbefore, hblank, -⟩ := parseAssignment?_eq_some.1 h
      exact ⟨before, after, hraw, hbefore, hblank⟩
    · rintro ⟨before, after, hraw, hbefore, hblank⟩
      exact ⟨_, parseAssignment?_eq_some.2 ⟨before, after, hraw, hbefore, hblank, rfl, rfl⟩⟩
  · obtain ⟨before, after, -, hbefore, hblank, rfl, -⟩ := parseAssignment?_eq_some.1 h
    refine ⟨fun hmem => hbefore (Text.mem_of_mem_trim hmem), Text.trimmed_trim before, fun hempty => ?_⟩
    rw [Text.trim_eq_empty_iff.1 hempty] at hblank
    cases hblank
  · intro id hne hid htrimmed v hdepth a b c d ha hb hc hd
    exact parseAssignment?_compact hne hid htrimmed hdepth ha hb hc hd
  · exact parseAssignment?_eq_some.2 ⟨before, after, rfl, hbefore, hblank, rfl, by rw [hread, Option.getD_none]⟩

/-- A quoted text with an equals sign is read back, and one that is not quoted is taken as it stands. -/
theorem assignment_reads_back_of_text :
    parseAssignment? (" " ++ "name" ++ "\t" ++ "=" ++ (" " ++ (Json.str "a=b").compact ++ "\u00a0")) =
        some ("name", .str "a=b") ∧
      parseAssignment? ("k " ++ "=" ++ " a=b ") = some ("k", .str " a=b ") ∧
      ('=' ∉ "k".toList ∧ Text.Trimmed "k" ∧ "k" ≠ "") := by
  obtain ⟨-, hid, hjson, htext⟩ := assignment_reads_back
  have hplain : parseAssignment? ("k " ++ "=" ++ " a=b ") = some ("k", .str " a=b ") :=
    htext "k " " a=b " (by decide) (by decide) (by decide +kernel)
  have hname : Text.Trimmed "name" := (Text.trim_eq_iff.1 (by decide : Text.trim "name" = "name")).1
  refine ⟨?_, hplain, hid _ _ _ hplain⟩
  exact hjson "name" (by decide) (by decide) hname ⟨.str "a=b", .str _⟩ (by decide) " " "\t" " " "\u00a0"
    (by decide) (by decide) (by decide) (by decide)

end LiveForm

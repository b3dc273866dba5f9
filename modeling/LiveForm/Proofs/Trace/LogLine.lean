import LiveForm.Proofs.Json.RoundTrip
import LiveForm.Trace.Document

/-!
# Lines of the log

Whatever text a diagnostic has, its line in the log is one line and tells it. Control characters are escaped in
strings and do not occur elsewhere, so there are none in the compact text of any value (`Json.all_plain_compact`):
the line ends where the log ends it. Taken apart, the line gives the diagnostic back with all its fields, and where
its time fits a word the line is the text of a document that has these fields (`Diagnostic.logLine_tells`).
-/

namespace LiveForm

open Json.Reader

namespace Json

/-! ## No control characters -/

/-- No control character, such as a line break. -/
def isPlain (c : Char) : Bool := 32 ≤ c.toNat

theorem isPlain_hexDigit : ∀ n < 16, isPlain (hexDigit n) = true := by decide

/-- Control characters are escaped. -/
theorem all_plain_escapeChar (c : Char) : (escapeChar c).toList.all isPlain = true := by
  rw [escapeChar]
  -- the short forms
  iterate 7
    split
    · decide
  split
  · next hcontrol =>
    have hhigh := isPlain_hexDigit (c.toNat / 16) (by omega)
    have hlow := isPlain_hexDigit (c.toNat % 16) (Nat.mod_lt _ (by decide))
    have hdigits : (String.ofList [hexDigit (c.toNat / 16), hexDigit (c.toNat % 16)]).toList.all isPlain = true := by
      rw [String.toList_ofList, List.all_cons, List.all_cons, hhigh, hlow]
      rfl
    rw [String.toList_append, List.all_append, hdigits]
    decide
  · next hplain =>
    rw [Char.toString, String.toList_singleton, List.all_cons, isPlain, decide_eq_true (Nat.le_of_not_lt hplain)]
    rfl

theorem all_plain_quote (s : String) : (quote s).toList.all isPlain = true := by
  have hescaped : (escaped s.toList).all isPlain = true := by
    rw [escaped, List.all_flatMap, List.all_eq_true]
    exact fun c _ => all_plain_escapeChar c
  rw [toList_quote, List.cons_append, List.all_cons, List.all_append, hescaped]
  decide

theorem isPlain_of_isNumeric {c : Char} (hc : isNumeric c = true) : isPlain c = true := by
  simp only [isNumeric, Bool.or_eq_true, beq_iff_eq] at hc
  rcases hc with (((hdigit | rfl) | rfl) | rfl) | rfl
  · have hlower : 48 ≤ c.toNat := (Char.isDigit_iff_toNat.1 hdigit).1
    exact decide_eq_true (by omega)
  all_goals decide

theorem all_plain_num (n : Number) : n.text.toList.all isPlain = true := by
  obtain ⟨negative, d, ds, htext, hd, hds, -⟩ := n.legible
  have hnumeric : isNumeric d = true := by
    rw [isNumeric, hd]
    rfl
  have hplain : ds.all isPlain = true :=
    List.all_eq_true.2 fun c hc => isPlain_of_isNumeric (List.all_eq_true.1 hds c hc)
  rw [htext, List.all_append, List.all_cons, hplain, isPlain_of_isNumeric hnumeric]
  cases negative <;> decide

theorem all_plain_memberText {m : String × Json} (h : m.2.compact.toList.all isPlain = true) :
    (memberText m).all isPlain = true := by
  rw [memberText, List.all_append, List.all_cons, all_plain_quote, h]
  decide

/-- **There are no control characters** in the text of a value, and so no line breaks. -/
theorem all_plain_compact (v : Json) : v.compact.toList.all isPlain = true := by
  induction v using Json.induction with
  | null => decide
  | bool b => cases b <;> decide
  | num n => exact all_plain_num n
  | str s => exact all_plain_quote s
  | arr items ih =>
    have hitems : (compactItems items).toList.all isPlain = true := by
      cases items with
      | nil => decide
      | cons v rest =>
        have hrest : (furtherItems rest).all isPlain = true := by
          rw [furtherItems, List.all_flatMap, List.all_eq_true]
          exact fun w hw => by rw [List.all_cons, ih w (List.mem_cons_of_mem v hw)]; decide
        rw [toList_compactItems, List.all_append, ih v List.mem_cons_self, hrest]
        decide
    rw [compact, String.toList_append, String.toList_append, List.all_append, List.all_append, hitems]
    decide
  | obj members ih =>
    have hmembers : (compactMembers members).toList.all isPlain = true := by
      cases members with
      | nil => decide
      | cons m rest =>
        have hrest : (furtherMembers rest).all isPlain = true := by
          rw [furtherMembers, List.all_flatMap, List.all_eq_true]
          exact fun n hn => by rw [List.all_cons, all_plain_memberText (ih n (List.mem_cons_of_mem m hn))]; decide
        rw [toList_compactMembers, List.all_append, all_plain_memberText (ih m List.mem_cons_self), hrest]
        decide
    rw [compact, String.toList_append, String.toList_append, List.all_append, List.all_append, hmembers]
    decide

theorem newline_notMem_compact (v : Json) : '\n' ∉ v.compact.toList := fun h =>
  absurd (List.all_eq_true.1 v.all_plain_compact _ h) (by decide)

end Json

namespace Diagnostic

/-! ## Fields -/

theorem Kind.ofName?_name (k : Kind) : Kind.ofName? k.name = some k := by
  cases k <;> decide

theorem ofName?_hookName (k : HookKind) : HookKind.ofName? k.name = some k := by
  cases k <;> decide

theorem Source.ofJson?_toJson (s : Source) : Source.ofJson? s.toJson = some s := by
  cases s with
  | hook kind => rw [Source.toJson, Source.ofJson?, ofName?_hookName]; rfl
  | action => rfl
  | evaluator => rfl

/-- The members of a document about a diagnostic, with the time if it is told there. -/
def fields (time : Option Number) (d : Diagnostic) : List (String × Json) :=
  (time.map fun n => ("timestamp_ms", .num n)).toList ++ d.members

/-- The fields of a diagnostic are found in a document, with the time if it is told there. -/
structure Described (v : Json) (time : Option Number) (d : Diagnostic) : Prop where
  time : v.get? "timestamp_ms" = time.map .num
  kind : v.get? "kind" = some (.str d.kind.name)
  elementId : v.get? "element_id" = some ((d.elementId.map Json.str).getD .null)
  source : v.get? "source" = some d.source.toJson
  detail : v.get? "detail" = some (.str d.detail)

section

variable (time : Option Number) (d : Diagnostic)

theorem ordered_fields : (Json.obj (d.fields time)).ordered = .obj (Json.Members.ofList (d.fields time)) := by
  have hid : ((d.elementId.map Json.str).getD .null).ordered = (d.elementId.map Json.str).getD .null := by
    cases d.elementId <;> rfl
  have hsource : d.source.toJson.ordered = d.source.toJson := by
    cases d.source <;> rfl
  have hmembers : Json.orderedMembers d.members = d.members := by
    simp only [members, Json.ordered, Json.orderedMembers, hid, hsource]
  cases time with
  | none => exact congrArg (fun ms => Json.obj (Json.Members.ofList ms)) hmembers
  | some n => exact congrArg (fun ms => Json.obj (Json.Members.ofList (("timestamp_ms", .num n) :: ms))) hmembers

theorem nesting_fields : (Json.obj (d.fields time)).nesting ≤ Json.greatestDepth := by
  have hid : ((d.elementId.map Json.str).getD .null).nesting = 0 := by
    cases d.elementId <;> rfl
  have hsource : d.source.toJson.nesting ≤ 1 := by
    cases d.source <;> exact Nat.le_of_ble_eq_true rfl
  have hmembers : Json.nestingOfMembers d.members ≤ 1 := by
    simp only [members, Json.nesting, Json.nestingOfMembers, hid]
    omega
  have hfields : Json.nestingOfMembers (d.fields time) ≤ 1 := by
    cases time with
    | none => exact hmembers
    | some n => exact Nat.max_le.2 ⟨Nat.zero_le 1, hmembers⟩
  exact (Nat.succ_le_succ hfields).trans (by decide)

/-- **Every field is found** in a document of the fields. -/
theorem described_fields : Described (.obj (Json.Members.ofList (d.fields time))) time d := by
  cases time <;> constructor <;> simp only [Json.get?, Json.Members.lookup_ofList] <;> rfl

/-- The text of a document of the fields is read as this document. -/
theorem read?_fields : Json.read? (Json.obj (d.fields time)).compact =
    some (.obj (Json.Members.ofList (d.fields time))) := by
  rw [Json.read?_compact (d.nesting_fields time), ordered_fields]

/-- A diagnostic is got back from its time and a document that describes it. -/
theorem Described.ofJson? {v : Json} {time : Option Number} {d : Diagnostic} (h : Described v time d) :
    Diagnostic.ofJson? d.time v = some d := by
  obtain ⟨-, hkind, hid, hsource, hdetail⟩ := h
  rw [Diagnostic.ofJson?, hid, hkind, hsource, hdetail]
  obtain ⟨time, kind, id, source, detail⟩ := d
  cases id with
  | none => simp [Json.asText?, Kind.ofName?_name, Source.ofJson?_toJson]
  | some id => simp [Json.asText?, Kind.ofName?_name, Source.ofJson?_toJson]

end

/-! ## Lines -/

/-- What follows the time in a line is the text of a document of the other fields, but for its brace. -/
theorem toList_logLine (d : Diagnostic) : ∃ others, (Json.obj (d.fields none)).compact.toList = '\x7b' :: others ∧
    d.logLine.toList = lineStart.toList ++ (Nat.toDigits 10 d.time ++ ',' :: others) := by
  refine ⟨(Json.compactMembers d.members).toList ++ ['\x7d'], ?_, ?_⟩
  · have hfields : d.fields none = d.members := rfl
    rw [hfields, Json.compact, String.toList_append, String.toList_append]
    rfl
  · have hdigits : (toString d.time).toList = Nat.toDigits 10 d.time := Nat.toList_repr
    simp only [logLine, String.toList_append, hdigits, List.append_assoc]
    rfl

/-- **A line taken apart** gives back the diagnostic, whatever its time is. -/
theorem ofLine?_logLine (d : Diagnostic) : ofLine? d.logLine = some d := by
  obtain ⟨others, hothers, hline⟩ := d.toList_logLine
  have hdigits : ∀ c ∈ Nat.toDigits 10 d.time, c.isDigit = true := List.all_eq_true.1 (all_isDigit_toDigits d.time)
  have hcomma : ¬(','.isDigit = true) := by decide
  have htaken : (Nat.toDigits 10 d.time ++ ',' :: others).takeWhile Char.isDigit = Nat.toDigits 10 d.time := by
    rw [List.takeWhile_append_of_pos hdigits, List.takeWhile_cons_of_neg hcomma, List.append_nil]
  have hleft : (Nat.toDigits 10 d.time ++ ',' :: others).dropWhile Char.isDigit = ',' :: others := by
    rw [List.dropWhile_append_of_pos hdigits, List.dropWhile_cons_of_neg hcomma]
  have htext : String.ofList ('\x7b' :: others) = (Json.obj (d.fields none)).compact := by
    rw [← hothers, String.ofList_toList]
  have hstart (cs : List Char) : lineStart.toList.isPrefixOf (lineStart.toList ++ cs) = true :=
    List.isPrefixOf_iff_prefix.2 (List.prefix_append _ _)
  simp only [ofLine?, guard, hline, hstart, if_true, List.drop_left, Option.pure_def, Option.bind_eq_bind,
    Option.bind_some, htaken, hleft, List.tail_cons, htext, read?_fields, valueOfDigits_toDigits]
  exact (d.described_fields none).ofJson?

/-- The line of a diagnostic whose time fits a word is the text of the diagnostic as a document. -/
theorem logLine_eq_compact {d : Diagnostic} (h : InWordRange d.time) :
    d.logLine = (Json.obj (d.fields (some (.int d.time h)))).compact := by
  have hmember : Json.compactMembers (("timestamp_ms", .num (.int d.time h)) :: d.members) =
      Json.quote "timestamp_ms" ++ ":" ++ toString d.time ++ "," ++ Json.compactMembers d.members := rfl
  have hfields : d.fields (some (.int d.time h)) = ("timestamp_ms", .num (.int d.time h)) :: d.members := rfl
  rw [logLine, lineStart, hfields, Json.compact, hmember]
  simp only [String.append_assoc]

/-- Taken apart, a line gives the diagnostic; and where the time of the diagnostic fits a word, the line is read as a
document with all its fields. -/
def Tells (line : String) (d : Diagnostic) : Prop :=
  ofLine? line = some d ∧
    ∀ h : InWordRange d.time, ∃ v, Json.read? line = some v ∧ Described v (some (.int d.time h)) d

/-- **A line tells the diagnostic** that was written, whatever text it has. -/
theorem logLine_tells (d : Diagnostic) : Tells d.logLine d := by
  refine ⟨d.ofLine?_logLine, fun h => ⟨_, ?_, d.described_fields _⟩⟩
  rw [logLine_eq_compact h, read?_fields]

theorem newline_notMem_logLine (d : Diagnostic) : '\n' ∉ d.logLine.toList := by
  obtain ⟨others, hothers, hline⟩ := d.toList_logLine
  have hplain : lineStart.toList.all Json.isPlain = true := by
    rw [lineStart, String.toList_append, String.toList_append, List.all_append, List.all_append, Json.all_plain_quote]
    decide
  have hstart : '\n' ∉ lineStart.toList := fun h => absurd (List.all_eq_true.1 hplain _ h) (by decide)
  have htime : '\n' ∉ Nat.toDigits 10 d.time := fun h =>
    absurd (List.all_eq_true.1 (all_isDigit_toDigits d.time) _ h) (by decide)
  have hfields : '\n' ∉ others := fun h =>
    Json.newline_notMem_compact (.obj (d.fields none)) (hothers ▸ List.mem_cons_of_mem _ h)
  rw [hline]
  simp only [List.mem_append, List.mem_cons, hstart, htime, hfields, or_false, false_or]
  decide

end Diagnostic

end LiveForm

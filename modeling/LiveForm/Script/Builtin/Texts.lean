import LiveForm.Script.Builtin
import LiveForm.Text.Blank
import LiveForm.Text.Case

/-!
# Functions on texts

Places and lengths of texts count characters, except for `bytes`. Functions that read a part of a text
take a start, or a start and a count, or a range.
-/

namespace LiveForm.Script.Builtin

/-- The text an argument stands for where a text or a character may stand. -/
def asPart? : Value → Option String
  | .text s => some s
  | .char c => some c.toString
  | _ => none

/-- A list of texts as a value. -/
def textArray (parts : List (List Char)) : Value :=
  .array (parts.map fun cs => .text (String.ofList cs))

/-- The part of a text from a start, which may be counted from the end. -/
def partOf (s : String) (start count : Int) : List Char :=
  if count ≤ 0 then [] else slice s.toList start count

/-- The place of a part at or after a start, or `-1`. -/
def findIn (s part : String) (start : Int) : Value :=
  let cs := s.toList
  let first := if start < 0 then cs.length - min start.natAbs cs.length else start.toNat
  if cs.isEmpty || 0 < start && cs.length ≤ first then .int (-1)
  else
    match Text.indexOf? part.toList (cs.drop first) with
    | some i => .ofNat (first + i)
    | none => .int (-1)

/-- A text with every occurrence of a part replaced. -/
def replaceIn (s part substitute : String) : Value :=
  .text (String.ofList (Text.replaceAll part.toList substitute.toList s.toList))

/-- A text cut in two at a place, which may be counted from the end. -/
def cutAt (s : String) (index : Int) : Value :=
  let cs := s.toList
  let n := if index ≤ 0 then cs.length - index.natAbs else index.toNat
  textArray [cs.take n, cs.drop n]

/-- A text filled up to a length by repeating another one. -/
def padded (cs filler : List Char) (length : Nat) : List Char :=
  match filler with
  | [] => cs
  | _ =>
    let missing := length - cs.length
    cs ++ ((List.replicate (missing / filler.length + 1) filler).flatten).take missing

/-- Fills a text up, unless that would be too long. -/
def pad (limits : Limits) (s filler : String) (length : Int) : Option (Except Cause Outcome) :=
  if length ≤ s.length then answer .unit
  else if Limits.exceeds limits.textSize length.toNat then fault (.tooLarge "Length of string")
  else change (.text (String.ofList (padded s.toList filler.toList length.toNat)))

/-- The words of a text. -/
def wordsOf (cs : List Char) : List (List Char) :=
  let (word, rest) := cs.foldr (fun c (word, rest) =>
    if Text.isBlank c then ([], if word.isEmpty then rest else word :: rest) else (c :: word, rest))
    ([], [])
  if word.isEmpty then rest else word :: rest

/-- The parts between occurrences, the last ones first. -/
def splitReversed (count : Option Nat) (part cs : List Char) : List (List Char) :=
  let pieces := match count with
    | none => Text.splitOn part.reverse cs.reverse
    | some n => Text.splitAtMost n part.reverse cs.reverse
  pieces.map List.reverse

/-- A character in another case, if it is one character there. -/
def sameCharCase (f : Char → List Char) (c : Char) : Char :=
  match f c with
  | [d] => d
  | _ => c

/-- The functions on texts. -/
def texts (limits : Limits) (name : String) : Option (List Value → Option (Except Cause Outcome)) :=
  match name with
  | "len" => some fun
    | [.text s] => answer (.ofNat s.length)
    | _ => none
  | "is_empty" => some fun
    | [.text s] => answer (.bool s.isEmpty)
    | _ => none
  | "bytes" => some fun
    | [.text s] => answer (.ofNat s.utf8ByteSize)
    | _ => none
  | "trim" => some fun
    | [.text s] => change (.text (Text.trim s))
    | _ => none
  | "clear" => some fun
    | [.text _] => change (.text "")
    | _ => none
  | "append" => some fun
    | [.text s, v] => change (.text (s ++ v.appended))
    | _ => none
  | "to_upper" => some fun
    | [.text s] => answer (.text (Text.upper s))
    | [.char c] => answer (.char (sameCharCase Text.upperChar c))
    | _ => none
  | "to_lower" => some fun
    | [.text s] => answer (.text (Text.lower s))
    | [.char c] => answer (.char (sameCharCase Text.lowerChar c))
    | _ => none
  | "make_upper" => some fun
    | [.text s] => change (.text (Text.upper s))
    | [.char c] => change (.char (sameCharCase Text.upperChar c))
    | _ => none
  | "make_lower" => some fun
    | [.text s] => change (.text (Text.lower s))
    | [.char c] => change (.char (sameCharCase Text.lowerChar c))
    | _ => none
  | "contains" => some fun
    | [.text s, part] =>
      (asPart? part).bind fun p => answer (.bool (Text.contains p.toList s.toList))
    | _ => none
  | "starts_with" => some fun
    | [.text s, .text p] => answer (.bool (p.toList.isPrefixOf s.toList))
    | _ => none
  | "ends_with" => some fun
    | [.text s, .text p] => answer (.bool (p.toList.isSuffixOf s.toList))
    | _ => none
  | "index_of" => some fun
    | [.text s, part] => (asPart? part).bind fun p => answer (findIn s p 0)
    | [.text s, part, .int start] => (asPart? part).bind fun p => answer (findIn s p start.toInt)
    | _ => none
  | "sub_string" => some fun
    | [.text s, .int start] => answer (.text (String.ofList (partOf s start.toInt allTheRest)))
    | [.text s, .int start, .int count] =>
      answer (.text (String.ofList (partOf s start.toInt count.toInt)))
    | [.text s, .range first last closed] =>
      let (start, count) := rangeStretch first last closed
      answer (.text (String.ofList (partOf s start count)))
    | _ => none
  | "crop" => some fun
    | [.text s, .int start] => change (.text (String.ofList (partOf s start.toInt allTheRest)))
    | [.text s, .int start, .int count] =>
      change (.text (String.ofList (partOf s start.toInt count.toInt)))
    | [.text s, .range first last closed] =>
      let (start, count) := rangeStretch first last closed
      change (.text (String.ofList (partOf s start count)))
    | _ => none
  | "truncate" => some fun
    | [.text s, .int n] => change (.text (String.ofList (s.toList.take n.toInt.toNat)))
    | _ => none
  | "pad" => some fun
    | [.text s, .int n, filler] => (asPart? filler).bind fun f => pad limits s f n.toInt
    | _ => none
  | "replace" => some fun
    | [.text s, part, substitute] => do
      let p ← asPart? part
      let q ← asPart? substitute
      change (replaceIn s p q)
    | _ => none
  | "remove" => some fun
    | [.text s, part] => (asPart? part).bind fun p => change (replaceIn s p "")
    | _ => none
  | "split" => some fun
    | [.text s] => answer (textArray (wordsOf s.toList))
    | [.text s, .int index] => answer (cutAt s index.toInt)
    | [.text s, part] =>
      (asPart? part).bind fun p => answer (textArray (Text.splitOn p.toList s.toList))
    | [.text s, part, .int count] =>
      (asPart? part).bind fun p =>
        if count.toInt < 1 then answer (.array [.text s])
        else answer (textArray (Text.splitAtMost count.toInt.toNat p.toList s.toList))
    | _ => none
  | "split_rev" => some fun
    | [.text s, part] =>
      (asPart? part).bind fun p => answer (textArray (splitReversed none p.toList s.toList))
    | [.text s, part, .int count] =>
      (asPart? part).bind fun p =>
        if count.toInt < 1 then answer (.array [.text s])
        else answer (textArray (splitReversed (some count.toInt.toNat) p.toList s.toList))
    | _ => none
  | "chars" => some fun
    | [.text s] => answer (.chars s.toList)
    | [.text s, .int start] => answer (.chars (partOf s start.toInt allTheRest))
    | [.text s, .int start, .int count] => answer (.chars (partOf s start.toInt count.toInt))
    | [.text s, .range first last closed] =>
      let (start, count) := rangeStretch first last closed
      answer (.chars (partOf s start count))
    | _ => none
  | "to_chars" => some fun
    | [.text s] => answer (.array (s.toList.map .char))
    | _ => none
  | "to_blob" => some fun
    | [.text s] => answer (.blob s.toUTF8.toList)
    | _ => none
  | "get" => some fun
    | [.text s, .int i] =>
      answer (((place? s.length i).bind fun n => (s.toList[n]?).map .char).getD .unit)
    | _ => none
  | "set" => some fun
    | [.text s, .int i, .char c] =>
      match place? s.length i with
      | some n => change (.text (String.ofList (s.toList.set n c)))
      | none => answer .unit
    | _ => none
  | "pop" => some fun
    | [.text s] =>
      match s.toList.reverse with
      | c :: rest => both (.char c) (.text (String.ofList rest.reverse))
      | [] => answer .unit
    | [.text s, .int n] =>
      let kept := s.length - n.toInt.toNat
      both (.text (String.ofList (s.toList.drop kept))) (.text (String.ofList (s.toList.take kept)))
    | _ => none
  | "min" => some fun
    | [.text s, .text t] => answer (.text (if t < s then t else s))
    | [.char c, .char d] => answer (.char (if d < c then d else c))
    | _ => none
  | "max" => some fun
    | [.text s, .text t] => answer (.text (if s < t then t else s))
    | [.char c, .char d] => answer (.char (if c < d then d else c))
    | _ => none
  | _ => none

/-- The properties of texts. -/
def textProperty? (s : String) : String → Option Value
  | "len" => some (.ofNat s.length)
  | "is_empty" => some (.bool s.isEmpty)
  | "bytes" => some (.ofNat s.utf8ByteSize)
  | "chars" => some (.chars s.toList)
  | _ => none

end LiveForm.Script.Builtin

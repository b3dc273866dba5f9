/-!
# Finding parts of texts

Texts are searched as lists of characters, from left to right; parts that are found do not overlap. An
empty part is found before every character and at the end.
-/

namespace LiveForm.Text

/-- The text before the first occurrence of a part and the text after it. -/
def splitFirst? (part : List Char) : List Char → Option (List Char × List Char)
  | [] => if part.isEmpty then some ([], []) else none
  | c :: cs =>
    if part.isPrefixOf (c :: cs) then some ([], (c :: cs).drop part.length)
    else (splitFirst? part cs).map fun (before, after) => (c :: before, after)

/-- The number of characters before the first occurrence of a part. -/
def indexOf? (part cs : List Char) : Option Nat := (splitFirst? part cs).map (·.1.length)

/-- Whether a part occurs. -/
def contains (part cs : List Char) : Bool := (splitFirst? part cs).isSome

/-- The pieces between the occurrences of a part that is not empty, of which at most `count` are cut
off. The fuel is the length of the text. -/
def pieces (part : List Char) : (fuel count : Nat) → List Char → List (List Char)
  | 0, _, cs => [cs]
  | _, 0, cs => [cs]
  | fuel + 1, count + 1, cs =>
    match splitFirst? part cs with
    | some (before, after) => before :: pieces part fuel count after
    | none => [cs]

/-- The pieces between the occurrences of a part. -/
def splitOn (part cs : List Char) : List (List Char) :=
  if part.isEmpty then [] :: cs.map (fun c => [c]) ++ [[]]
  else pieces part (cs.length + 1) (cs.length + 1) cs

/-- At most so many pieces, the last of which has the rest of the text. -/
def splitAtMost (count : Nat) (part cs : List Char) : List (List Char) :=
  match count with
  | 0 => []
  | n + 1 =>
    if part.isEmpty then
      let all := splitOn part cs
      if all.length ≤ n + 1 then all else all.take n ++ [(all.drop n).flatten]
    else pieces part (cs.length + 1) n cs

/-- The text with every occurrence of a part replaced. -/
def replaceAll (part substitute cs : List Char) : List Char := substitute.intercalate (splitOn part cs)

end LiveForm.Text

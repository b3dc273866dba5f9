/-!
# Sets of characters given by ranges

The properties of characters that the library asks for are sets of code points. They are kept as
sorted arrays of closed ranges, and `inRanges` looks a character up by halving.
-/

namespace LiveForm.Text

/-- Whether a code point lies in one of the sorted closed ranges from index `lo` up to `hi`. -/
def inRangesBetween (ranges : Array (Nat × Nat)) (n lo hi : Nat) : (fuel : Nat) → Bool
  | 0 => false
  | fuel + 1 =>
    if hi ≤ lo then false
    else
      let mid := (lo + hi) / 2
      match ranges[mid]? with
      | none => false
      | some (first, last) =>
        if n < first then inRangesBetween ranges n lo mid fuel
        else if last < n then inRangesBetween ranges n (mid + 1) hi fuel
        else true

/-- Whether a character lies in one of the sorted closed ranges. -/
def inRanges (ranges : Array (Nat × Nat)) (c : Char) : Bool :=
  inRangesBetween ranges c.toNat 0 ranges.size (ranges.size + 1)

end LiveForm.Text

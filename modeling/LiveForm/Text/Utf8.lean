import LiveForm.Power

/-!
# Bytes as text

UTF-8 read leniently. Where bytes are no character, a replacement stands for as many of them as could have
begun one, and for at least one byte.
-/

namespace LiveForm.Text

/-- What stands in the place of bytes that are no character. -/
def replacement : Char := '\ufffd'

/-- The bytes that may follow a first byte, as the bounds of the second byte and the number of bytes after
that. -/
def following? (first : Nat) : Option (Nat × Nat × Nat) :=
  if 0xc2 ≤ first ∧ first ≤ 0xdf then some (0x80, 0xbf, 0)
  else if first = 0xe0 then some (0xa0, 0xbf, 1)
  else if first = 0xed then some (0x80, 0x9f, 1)
  else if 0xe1 ≤ first ∧ first ≤ 0xef then some (0x80, 0xbf, 1)
  else if first = 0xf0 then some (0x90, 0xbf, 2)
  else if 0xf1 ≤ first ∧ first ≤ 0xf3 then some (0x80, 0xbf, 2)
  else if first = 0xf4 then some (0x80, 0x8f, 2)
  else none

/-- The number that so many further bytes complete, if they are there, and how many bytes it takes. -/
def completed (n taken : Nat) : (count : Nat) → List UInt8 → Option Nat × Nat
  | 0, _ => (some n, taken)
  | _ + 1, [] => (none, taken)
  | count + 1, b :: rest =>
    if 0x80 ≤ b.toNat ∧ b.toNat ≤ 0xbf then
      completed (n * 64 + b.toNat % 64) (taken + 1) count rest
    else (none, taken)

/-- The first character, and how many of the bytes after the first one it takes. -/
def firstChar (first : UInt8) (rest : List UInt8) : Char × Nat :=
  if first.toNat < 0x80 then (Char.ofNat first.toNat, 0)
  else
    match following? first.toNat, rest with
    | some (low, high, more), b :: after =>
      if low ≤ b.toNat ∧ b.toNat ≤ high then
        let lead := first.toNat % 2 ^ (5 - more)
        match completed (lead * 64 + b.toNat % 64) 1 more after with
        | (some n, taken) => (Char.ofNat n, taken)
        | (none, taken) => (replacement, taken)
      else (replacement, 0)
    | _, _ => (replacement, 0)

/-- The characters of bytes. -/
def charsOfBytes : List UInt8 → List Char
  | [] => []
  | first :: rest =>
    let (c, taken) := firstChar first rest
    c :: charsOfBytes (rest.drop taken)
termination_by bytes => bytes.length
decreasing_by
  simp only [List.length_drop, List.length_cons]
  omega

/-- The text of bytes. -/
def ofBytes (bytes : List UInt8) : String := String.ofList (charsOfBytes bytes)

end LiveForm.Text

import LiveForm.Address.Percent

/-!
# Hosts that are numbers

A host can be written as a number of 32 bits, in up to four parts between points and in three bases, or as
eight numbers of 16 bits between colons. There a row of zeros can be left out, and the last two numbers can be
written as four between points.
-/

namespace LiveForm.Address

/-- The parts of characters between separators. -/
def partsBetween (separator : Char) : List Char → List (List Char)
  | [] => [[]]
  | c :: rest =>
    match partsBetween separator rest with
    | part :: more => if c == separator then [] :: part :: more else (c :: part) :: more
    | [] => [[c]]

/-- The number that digits of a base write. -/
def numberIn? (base : Nat) (digits : List Char) : Option Nat :=
  digits.foldlM (fun n c => do
    let d ← hexValue? c
    if d < base then some (base * n + d) else none) 0

/-! ## Thirty-two bits -/

/-- A part of a host that is a number: in hexadecimal digits after `0x`, in octal ones after a zero, or in
decimal ones. -/
def partNumber? : List Char → Option Nat
  | [] => none
  | '0' :: 'x' :: digits | '0' :: 'X' :: digits => numberIn? 16 digits
  | '0' :: d :: digits => numberIn? 8 (d :: digits)
  | digits => numberIn? 10 digits

/-- The parts of a host. A point at the end does not count. -/
def hostParts (host : List Char) : List (List Char) :=
  let parts := partsBetween '.' host
  if 1 < parts.length && parts.getLast? == some [] then parts.dropLast else parts

/-- Whether the last part of a host is a number, so that the whole has to be one. -/
def endsInNumber (host : List Char) : Bool :=
  match (hostParts host).getLast? with
  | some (c :: rest) =>
    (c :: rest).all (fun d => '0' ≤ d && d ≤ '9') || (partNumber? (c :: rest)).isSome
  | _ => false

/-- The number that is made of parts, of which the last one takes what the others leave. -/
def joined? : List Nat → Option Nat
  | ns =>
    match ns.reverse with
    | [] => none
    | last :: before =>
      if 4 < ns.length || before.any (255 < ·) || 256 ^ (4 - before.length) ≤ last then none
      else
        some (last + (before.reverse.zipIdx.foldl (fun sum (n, i) => sum + n * 256 ^ (3 - i)) 0))

/-- The host of 32 bits that characters write. -/
def wordOfHost? (host : List Char) : Option Nat := ((hostParts host).mapM partNumber?).bind joined?

/-- A number of 32 bits as four between points. -/
def wordText (n : Nat) : String :=
  ".".intercalate ([3, 2, 1, 0].map fun i => toString (n / 256 ^ i % 256))

/-! ## Eight times sixteen bits -/

/-- A number between colons. -/
def piece? (cs : List Char) : Option Nat :=
  if cs.isEmpty || 4 < cs.length then none else numberIn? 16 cs

/-- A number from 0 to 255 without zeros in front. -/
def byte? : List Char → Option Nat
  | ['0'] => some 0
  | '0' :: _ | [] => none
  | digits => (numberIn? 10 digits).filter (· < 256)

/-- The two pieces that four numbers between points stand for. -/
def pointedPieces? (cs : List Char) : Option (List Nat) := do
  let [a, b, c, d] ← (partsBetween '.' cs).mapM byte? | none
  return [256 * a + b, 256 * c + d]

/-- The pieces between colons; only the last one may have points. -/
def pieces? : List (List Char) → Option (List Nat)
  | [] => some []
  | [last] => if last.contains '.' then pointedPieces? last else (piece? last).map ([·])
  | part :: rest => do return (← piece? part) :: (← pieces? rest)

/-- The pieces that characters write, none for no characters. -/
def piecesOf? (cs : List Char) : Option (List Nat) :=
  if cs.isEmpty then some [] else pieces? (partsBetween ':' cs)

/-- The characters before and after the first two colons in a row. -/
def aroundGap? : List Char → Option (List Char × List Char)
  | ':' :: ':' :: rest => some ([], rest)
  | c :: rest => (aroundGap? rest).map fun (before, after) => (c :: before, after)
  | [] => none

/-- The eight pieces that characters write. A gap stands for at least one zero. -/
def eightPieces? (cs : List Char) : Option (List Nat) := do
  match aroundGap? cs with
  | none =>
    let ns ← piecesOf? cs
    if ns.length = 8 then some ns else none
  | some (before, after) =>
    if before.contains '.' then none
    else
      let first ← piecesOf? before
      let last ← piecesOf? after
      if 8 ≤ first.length + last.length then none
      else some (first ++ List.replicate (8 - first.length - last.length) 0 ++ last)

/-- The longest row of zeros, as its place and its length; of equal ones the first. -/
def longestZeros (ns : List Nat) : Nat × Nat :=
  (List.range ns.length).foldl (fun (place, length) i =>
    let here := ((ns.drop i).takeWhile (· == 0)).length
    if length < here then (i, here) else (place, length)) (0, 0)

/-- Pieces between colons in hexadecimal digits. -/
def piecesText (ns : List Nat) : String :=
  ":".intercalate (ns.map fun n => String.ofList (Nat.toDigits 16 n))

/-- Eight pieces as text. A row of two or more zeros is left out. -/
def eightText (ns : List Nat) : String :=
  let (place, length) := longestZeros ns
  if length < 2 then piecesText ns
  else piecesText (ns.take place) ++ "::" ++ piecesText (ns.drop (place + length))

end LiveForm.Address

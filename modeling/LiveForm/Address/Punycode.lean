/-!
# Names in letters of ASCII

A name with letters of other scripts is written with those of ASCII: first the characters that are ASCII, and
after a hyphen the others, in increasing order, as numbers that say how many steps it takes to the next
character and its place. The digits of a number are letters and decimal digits, the lowest first; where a
number ends is told by thresholds that move with the sizes of the numbers.
-/

namespace LiveForm.Address.Punycode

def digit (n : Nat) : Char := Char.ofNat (if n < 26 then 'a'.toNat + n else '0'.toNat + (n - 26))

def digitValue? (c : Char) : Option Nat :=
  if 'a' ≤ c && c ≤ 'z' then some (c.toNat - 'a'.toNat)
  else if 'A' ≤ c && c ≤ 'Z' then some (c.toNat - 'A'.toNat)
  else if '0' ≤ c && c ≤ '9' then some (c.toNat - '0'.toNat + 26)
  else none

/-- What the digit at a place has to reach for another digit to follow. -/
def threshold (place bias : Nat) : Nat := max 1 (min 26 (place - bias))

/-- How often a number is divided until it is small, and what is left of it. -/
def shrink (n : Nat) : Nat × Nat :=
  if 455 < n then
    let (times, rest) := shrink (n / 35)
    (times + 1, rest)
  else (0, n)
termination_by n
decreasing_by omega

/-- The bias after a number of steps has been written. -/
def nextBias (delta count : Nat) (first : Bool) : Nat :=
  let delta := if first then delta / 700 else delta / 2
  let (times, rest) := shrink (delta + delta / count)
  36 * times + 36 * rest / (rest + 38)

/-- The digits of a number. -/
def digits (bias : Nat) : (fuel : Nat) → (place n : Nat) → List Char
  | 0, _, _ => []
  | fuel + 1, place, n =>
    let t := threshold place bias
    if n < t then [digit n]
    else digit (t + (n - t) % (36 - t)) :: digits bias fuel (place + 36) ((n - t) / (36 - t))

/-- Where an encoder stands. -/
structure Progress where
  written : List Char := []
  delta : Nat := 0
  bias : Nat := 72
  /-- The characters that are written. -/
  count : Nat

/-- The encoder after the next character of the name, while it looks for those of one code point. -/
def step (basic point : Nat) (p : Progress) (c : Char) : Progress :=
  if c.toNat < point then { p with delta := p.delta + 1 }
  else if c.toNat = point then
    { written := p.written ++ digits p.bias (p.delta + 1) 36 p.delta, delta := 0
      bias := nextBias p.delta (p.count + 1) (p.count = basic), count := p.count + 1 }
  else p

/-- The encoder after all characters of the name that are among these code points. -/
def encodeAll (name : List Char) (basic : Nat) : (points : List Nat) → (next : Nat) → Progress → Progress
  | [], _, p => p
  | point :: rest, next, p =>
    let p := { p with delta := p.delta + (point - next) * (p.count + 1) }
    let p := name.foldl (step basic point) p
    encodeAll name basic rest (point + 1) { p with delta := p.delta + 1 }

/-- A name written in ASCII. -/
def encode (name : List Char) : List Char :=
  let basic := name.filter (·.toNat < 128)
  let points := ((name.filter (128 ≤ ·.toNat)).map Char.toNat).mergeSort.eraseDups
  let p := encodeAll name basic.length points 128 { count := basic.length }
  basic ++ (if basic.isEmpty then [] else ['-']) ++ p.written

/-- A number read from digits, added to one there is, and the digits after it. -/
def number? (bias : Nat) : (place weight sum : Nat) → List Char → Option (Nat × List Char)
  | _, _, _, [] => none
  | place, weight, sum, c :: rest => do
    let d ← digitValue? c
    let t := threshold place bias
    if d < t then some (sum + d * weight, rest)
    else number? bias (place + 36) (weight * (36 - t)) (sum + d * weight) rest

/-- The characters that numbers put into a name. -/
def decodeAll : (fuel : Nat) → (bias next place : Nat) → (name : List Char) → List Char → Option (List Char)
  | _, _, _, _, name, [] => some name
  | 0, _, _, _, _, _ => none
  | fuel + 1, bias, next, place, name, cs => do
    let (n, rest) ← number? bias 36 1 place cs
    let count := name.length + 1
    let point := next + n / count
    if point.isValidChar then
      decodeAll fuel (nextBias (n - place) count (place = 0)) point (n % count + 1)
        (name.insertIdx (n % count) (Char.ofNat point)) rest
    else none

/-- The name that is written in ASCII. -/
def decode? (cs : List Char) : Option (List Char) :=
  let ending := (cs.reverse.takeWhile (· != '-')).reverse
  let basic := (cs.take (cs.length - ending.length)).dropLast
  if cs.any (128 ≤ ·.toNat) then none else decodeAll cs.length 72 128 0 basic ending

end LiveForm.Address.Punycode

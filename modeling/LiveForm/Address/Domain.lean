import LiveForm.Address.Likeness
import LiveForm.Address.Numbers
import LiveForm.Address.Punycode
import LiveForm.Text.Case
import LiveForm.Text.Printable
import LiveForm.Text.Word

/-!
# Names of hosts

The name of a host is a row of labels between points. However it is written, it is brought into one form of
ASCII (`hostName?`): letters become small, other shapes of characters become plain, what is not seen is
dropped, and a label with characters beyond ASCII is written with those of ASCII after `xn--`.
-/

namespace LiveForm.Address

/-- The code points that do not matter in a name. -/
def unseenInNames : Array (Nat × Nat) := #[
  (0xad, 0xad), (0x34f, 0x34f), (0x115f, 0x1160), (0x17b4, 0x17b5), (0x180b, 0x180f), (0x200b, 0x200b),
  (0x2060, 0x2064), (0x206a, 0x206f), (0x3164, 0x3164), (0xfe00, 0xfe0f), (0xfeff, 0xfeff), (0xffa0, 0xffa0),
  (0x1bca0, 0x1bca3), (0x1d173, 0x1d17a), (0xe0100, 0xe01ef)]

/-- Printed characters that no name has: those that are made of points, those that are made of a blank and a
mark, and descriptions of other characters. -/
def unnamed : Array (Nat × Nat) := #[
  (0xa8, 0xa8), (0xaf, 0xaf), (0xb4, 0xb4), (0xb8, 0xb8), (0x2d8, 0x2dd), (0x37a, 0x37a), (0x384, 0x385),
  (0x1fbd, 0x1fbd), (0x1fbf, 0x1fc1), (0x1fcd, 0x1fcf), (0x1fdd, 0x1fdf), (0x1fed, 0x1fee), (0x1ffd, 0x1ffe),
  (0x2017, 0x2017), (0x2024, 0x2026), (0x203e, 0x203e), (0x2488, 0x249b), (0x2ff0, 0x2ffb), (0x309b, 0x309c),
  (0x33c2, 0x33c2), (0x33c7, 0x33c7), (0x33d8, 0x33d8), (0xfe12, 0xfe12), (0xfe19, 0xfe19), (0xfe30, 0xfe30),
  (0xfe49, 0xfe4c), (0xfe52, 0xfe52), (0xffe3, 0xffe3), (0xfffc, 0xfffd), (0x1f100, 0x1f100)]

/-- Whether a character separates labels. -/
def isFullStop (c : Char) : Bool := c == '.' || c == '\u3002' || c == '\uff0e' || c == '\uff61'

/-- The plain characters for one in a name. -/
def plain (c : Char) : List Char :=
  if isFullStop c then ['.']
  else if c.toNat < 128 then [c.toLower]
  else if Text.inRanges unseenInNames c then []
  else (likeness? c.toNat).getD (Text.lowerChar c)

/-- Whether a character may stand in a name that is written without restriction to ASCII. -/
def isNamed (c : Char) : Bool :=
  (Text.isPrintable c || Text.isWordChar c) && !Text.inRanges unnamed c && c != '\u200c' && c != '\u200d'

/-- Whether a character prints only together with the one before it. -/
def isMark (c : Char) : Bool := Text.isWordChar c && !Text.isPrintable c

/-- The characters of ASCII that no name holds. -/
def isForbidden (c : Char) : Bool :=
  c.toNat ≤ 0x20 || c.toNat == 0x7F || "#/:<>?@[\\]^|%".toList.contains c

/-- What marks a label that stands for one with characters beyond ASCII. -/
def codedMark : List Char := ['x', 'n', '-', '-']

/-- Whether characters are a label that has to be coded. -/
def isCodable (cs : List Char) : Bool :=
  cs.all isNamed && !cs.head?.any isMark && cs.any (128 ≤ ·.toNat)

/-- A label in ASCII. One that is coded already has to be the code of a plain label. -/
def label? (cs : List Char) : Option (List Char) :=
  if codedMark.isPrefixOf cs then do
    let code := cs.drop codedMark.length
    let name ← Punycode.decode? code
    if isCodable name && name.flatMap plain == name && Punycode.encode name == code then some cs else none
  else if cs.all (·.toNat < 128) then some cs
  else if isCodable cs then some (codedMark ++ Punycode.encode cs)
  else none

/-- The name in ASCII for characters in percent-encoding. -/
def hostName? (cs : List Char) : Option (List Char) := do
  let name := (← decoded? cs).flatMap plain
  let labels ← (partsBetween '.' name).mapM label?
  let written := ['.'].intercalate labels
  if written.isEmpty || written.any isForbidden then none else some written

end LiveForm.Address

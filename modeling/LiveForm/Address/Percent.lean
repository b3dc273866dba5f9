import LiveForm.Text.Utf8

/-!
# Percent-encoding

In an address a byte can be written as a percent sign and two hexadecimal digits. Which characters have to be
written so depends on the part of the address; those beyond ASCII always have to.
-/

namespace LiveForm.Address

/-- The characters that a part of an address does not hold as they are. -/
abbrev Escapes := Char → Bool

namespace Escapes

/-- Controls, and what is beyond ASCII. -/
def controls : Escapes := fun c => c.toNat < 0x20 || 0x7f ≤ c.toNat

def also (e : Escapes) (more : String) : Escapes := fun c => e c || more.toList.contains c

def fragment : Escapes := controls.also " \"<>\x60"

def path : Escapes := fragment.also "#?\x7b\x7d"

def user : Escapes := path.also "/:;=@[\\]^|"

def query : Escapes := controls.also " \"#<>"

/-- The query of an address of the well-known schemes. -/
def hostedQuery : Escapes := query.also "'"

end Escapes

/-- A hexadecimal digit in capitals. -/
def hexDigit (n : Nat) : Char := (Nat.digitChar n).toUpper

/-- A byte in percent-encoding. -/
def encodedByte (b : UInt8) : List Char := ['%', hexDigit (b.toNat / 16), hexDigit (b.toNat % 16)]

/-- Characters with some of them in percent-encoding. -/
def encoded (escapes : Escapes) (cs : List Char) : List Char :=
  cs.flatMap fun c => if escapes c then c.toString.toUTF8.toList.flatMap encodedByte else [c]

/-- The value of a hexadecimal digit. -/
def hexValue? (c : Char) : Option Nat :=
  if '0' ≤ c && c ≤ '9' then some (c.toNat - '0'.toNat)
  else if 'a' ≤ c && c ≤ 'f' then some (c.toNat - 'a'.toNat + 10)
  else if 'A' ≤ c && c ≤ 'F' then some (c.toNat - 'A'.toNat + 10)
  else none

/-- The bytes of characters in percent-encoding. A percent sign without two digits is itself. -/
def decodedBytes : List Char → List UInt8
  | '%' :: a :: b :: rest =>
    match hexValue? a, hexValue? b with
    | some m, some n => UInt8.ofNat (16 * m + n) :: decodedBytes rest
    | _, _ => UInt8.ofNat '%'.toNat :: decodedBytes (a :: b :: rest)
  | c :: rest => c.toString.toUTF8.toList ++ decodedBytes rest
  | [] => []

/-- The text of characters in percent-encoding, if its bytes are one. -/
def decoded? (cs : List Char) : Option (List Char) :=
  (String.fromUTF8? ⟨(decodedBytes cs).toArray⟩).map String.toList

end LiveForm.Address

import LiveForm.Script.Builtin
import LiveForm.Text.Utf8

/-!
# Functions on blobs

A blob is a row of bytes; scripts put integers into it, of which the lowest byte counts, and get integers
out. What there is nothing of, reads as zero. Parts of a blob are numbers or texts written into it: an
integer or a float of eight bytes, in either order of them, or as many of these bytes as the part has.
-/

namespace LiveForm.Script.Builtin

/-- The lowest byte of an integer. -/
def byteOf (n : Int64) : UInt8 := UInt8.ofNat (Arithmetic.bitsOf n % 256)

def byteValue (b : UInt8) : Value := .ofNat b.toNat

/-- A blob of equal bytes, unless that would be too large. -/
def newBlob (limits : Limits) (length : Int) (byte : UInt8) : Option (Except Cause Outcome) :=
  if Limits.exceeds limits.arraySize length.toNat then fault (.tooLarge "Size of array/BLOB")
  else answer (.blob (List.replicate length.toNat byte))

/-- Fills a blob up, unless that would be too large. -/
def padBlob (limits : Limits) (bytes : List UInt8) (length : Int) (byte : UInt8) :
    Option (Except Cause Outcome) :=
  if Limits.exceeds limits.arraySize length.toNat then fault (.tooLarge "Size of array/BLOB")
  else change (.blob (bytes ++ List.replicate (length.toNat - bytes.length) byte))

/-! ## Words -/

/-- The order of the bytes of a word. -/
inductive ByteOrder where
  | lowFirst
  | highFirst
  deriving DecidableEq

/-- The number of eight bytes, of which the first ones are given and the others are zero. -/
def wordOfBytes (order : ByteOrder) (bytes : List UInt8) : Nat :=
  let all := (bytes ++ List.replicate 8 0).take 8
  let highFirst := if order == .lowFirst then all.reverse else all
  highFirst.foldl (fun n b => n * 256 + b.toNat) 0

/-- The eight bytes of a number. -/
def bytesOfWord (order : ByteOrder) (n : Nat) : List UInt8 :=
  let lowFirst := (List.range 8).map fun i => UInt8.ofNat (n / 256 ^ i % 256)
  if order == .lowFirst then lowFirst else lowFirst.reverse

/-- A blob with the start of other bytes written over a part of it. -/
def overwritten (bytes : List UInt8) (start count : Int) (others : List UInt8) : List UInt8 :=
  let (first, n) := stretch bytes.length start count
  let written := others.take n
  bytes.take first ++ written ++ bytes.drop (first + written.length)

/-- What can be written into a blob, and read from it. -/
inductive Coding where
  | int (order : ByteOrder)
  | float (order : ByteOrder)
  | utf8
  | ascii

/-- The bytes a value is written as. -/
def Coding.bytes? : Coding → Value → Option (List UInt8)
  | .int order, .int n => some (bytesOfWord order (Arithmetic.bitsOf n))
  | .float order, .float x => some (bytesOfWord order x.toBits.toNat)
  | .utf8, .text s => some s.toUTF8.toList
  | .ascii, .text s => some ((s.toList.filter fun c => c.toNat < 128).map fun c => UInt8.ofNat c.toNat)
  | _, _ => none

/-- The number that bytes stand for. -/
def Coding.read? : Coding → List UInt8 → Option Value
  | .int order, bytes => some (.int (Arithmetic.ofBits (wordOfBytes order bytes)))
  | .float order, bytes => some (.float (Float.ofBits (UInt64.ofNat (wordOfBytes order bytes))))
  | _, _ => none

/-- The functions that write a value into a part of a blob, by name. -/
def writeCodings : String → List Coding
  | "write_le" => [.int .lowFirst, .float .lowFirst]
  | "write_be" => [.int .highFirst, .float .highFirst]
  | "write_utf8" => [.utf8]
  | "write_ascii" => [.ascii]
  | _ => []

/-- The functions that read a value from a part of a blob, by name. -/
def readCoding? : String → Option Coding
  | "parse_le_int" => some (.int .lowFirst)
  | "parse_be_int" => some (.int .highFirst)
  | "parse_le_float" => some (.float .lowFirst)
  | "parse_be_float" => some (.float .highFirst)
  | _ => none

/-- A value written into a part of a blob. -/
def writeInto (codings : List Coding) (bytes : List UInt8) (start count : Int) (v : Value) :
    Option (Except Cause Outcome) :=
  (codings.findSome? (·.bytes? v)).bind fun others =>
    change (.blob (if count ≤ 0 then bytes else overwritten bytes start count others))

/-- A value read from a part of a blob. -/
def readFrom (coding : Coding) (bytes : List UInt8) (start count : Int) :
    Option (Except Cause Outcome) :=
  (coding.read? (partOfList bytes start count)).bind answer

/-! ## The functions -/

/-- The functions on blobs. -/
def blobs (limits : Limits) (name : String) : Option (List Value → Option (Except Cause Outcome)) :=
  match name with
  | "blob" => some fun
    | [] => answer (.blob [])
    | [.int n] => newBlob limits n.toInt 0
    | [.int n, .int v] => newBlob limits n.toInt (byteOf v)
    | _ => none
  | "len" => some fun
    | [.blob bytes] => answer (.ofNat bytes.length)
    | _ => none
  | "is_empty" => some fun
    | [.blob bytes] => answer (.bool bytes.isEmpty)
    | _ => none
  | "contains" => some fun
    | [.blob bytes, .int v] =>
      answer (.bool (0 ≤ v.toInt && v.toInt < 256 && bytes.contains (byteOf v)))
    | _ => none
  | "get" => some fun
    | [.blob bytes, .int i] =>
      answer (((nearPlace? bytes.length i).bind fun n => bytes[n]?).elim (.int 0) byteValue)
    | _ => none
  | "set" => some fun
    | [.blob bytes, .int i, .int v] =>
      match nearPlace? bytes.length i with
      | some n => change (.blob (bytes.set n (byteOf v)))
      | none => answer .unit
    | _ => none
  | "push" | "append" => some fun
    | [.blob bytes, .int v] => change (.blob (bytes ++ [byteOf v]))
    | [.blob bytes, .blob others] => if name == "append" then change (.blob (bytes ++ others)) else none
    | [.blob bytes, .text s] => if name == "append" then change (.blob (bytes ++ s.toUTF8.toList)) else none
    | [.blob bytes, .char c] =>
      if name == "append" then change (.blob (bytes ++ c.toString.toUTF8.toList)) else none
    | _ => none
  | "insert" => some fun
    | [.blob bytes, .int i, .int v] => change (.blob (insertInto bytes i (byteOf v)))
    | _ => none
  | "pad" => some fun
    | [.blob bytes, .int n, .int v] => padBlob limits bytes n.toInt (byteOf v)
    | _ => none
  | "pop" => some fun
    | [.blob bytes] =>
      both ((bytes.getLast?).elim (.int 0) byteValue) (.blob bytes.dropLast)
    | _ => none
  | "shift" => some fun
    | [.blob bytes] => both ((bytes.head?).elim (.int 0) byteValue) (.blob (bytes.drop 1))
    | _ => none
  | "remove" => some fun
    | [.blob bytes, .int i] =>
      match place? bytes.length i with
      | some n => both ((bytes[n]?).elim (.int 0) byteValue) (.blob (bytes.eraseIdx n))
      | none => answer (.int 0)
    | _ => none
  | "clear" => some fun
    | [.blob _] => change (.blob [])
    | _ => none
  | "truncate" => some fun
    | [.blob bytes, .int n] => change (.blob (bytes.take n.toInt.toNat))
    | _ => none
  | "chop" => some fun
    | [.blob bytes, .int n] => change (.blob (bytes.drop (bytes.length - n.toInt.toNat)))
    | _ => none
  | "reverse" => some fun
    | [.blob bytes] => change (.blob bytes.reverse)
    | _ => none
  | "splice" => some fun
    | [.blob bytes, .int start, .int count, .blob others] =>
      change (.blob (spliced bytes start.toInt count.toInt others))
    | [.blob bytes, .range first last closed, .blob others] =>
      let (start, count) := rangeStretch first last closed
      change (.blob (spliced bytes start count others))
    | _ => none
  | "extract" => some fun
    | [.blob bytes, .int start] => answer (.blob (partOfList bytes start.toInt allTheRest))
    | [.blob bytes, .int start, .int count] =>
      answer (.blob (partOfList bytes start.toInt count.toInt))
    | [.blob bytes, .range first last closed] =>
      let (start, count) := rangeStretch first last closed
      answer (.blob (partOfList bytes start count))
    | _ => none
  | "split" => some fun
    | [.blob bytes, .int start] =>
      let (n, _) := stretch bytes.length start.toInt 0
      both (.blob (bytes.drop n)) (.blob (bytes.take n))
    | _ => none
  | "drain" => some fun
    | [.blob bytes, .int start, .int count] =>
      both (.blob (partOfList bytes start.toInt count.toInt))
        (.blob (restOfList bytes start.toInt count.toInt))
    | [.blob bytes, .range first last closed] =>
      let (start, count) := rangeStretch first last closed
      both (.blob (partOfList bytes start count)) (.blob (restOfList bytes start count))
    | _ => none
  | "retain" => some fun
    | [.blob bytes, .int start, .int count] =>
      let (kept, cut) := keptOfList bytes start.toInt count.toInt
      both (.blob cut) (.blob kept)
    | [.blob bytes, .range first last closed] =>
      let (start, count) := rangeStretch first last closed
      let (kept, cut) := keptOfList bytes start count
      both (.blob cut) (.blob kept)
    | _ => none
  | "to_array" => some fun
    | [.blob bytes] => answer (.array (bytes.map byteValue))
    | _ => none
  | "as_string" => some fun
    | [.blob bytes] => answer (.text (Text.ofBytes bytes))
    | _ => none
  | name =>
    match writeCodings name, readCoding? name with
    | [], none => none
    | _, some coding => some fun
      | [.blob bytes, .int start, .int count] => readFrom coding bytes start.toInt count.toInt
      | [.blob bytes, .range first last closed] =>
        let (start, count) := rangeStretch first last closed
        readFrom coding bytes start count
      | _ => none
    | codings, none => some fun
      | [.blob bytes, .int start, .int count, v] =>
        writeInto codings bytes start.toInt count.toInt v
      | [.blob bytes, .range first last closed, v] =>
        let (start, count) := rangeStretch first last closed
        writeInto codings bytes start count v
      | _ => none

end LiveForm.Script.Builtin

/-!
# Values of scripts

What a script computes with. Integers are signed 64-bit words; the members of a map are sorted by key.
A closure is the name of a function of the script together with the values it has captured. A variable
that a closure captures is moved to a cell that both share; `shared` refers to such a cell. Cells occur
only as variables and as captured values, never inside arrays and maps.
-/

namespace LiveForm.Script

inductive Value where
  | unit
  | bool (b : Bool)
  | int (n : Int64)
  | float (x : Float)
  | char (c : Char)
  | text (s : String)
  | blob (bytes : List UInt8)
  | array (items : List Value)
  | map (members : List (String × Value))
  /-- The integers from `first` up to `last`, which belongs to them only if `closed`. -/
  | range (first last : Int64) (closed : Bool)
  /-- The integers from `first` in steps, up to `last` exclusively. -/
  | steps (first last step : Int64)
  /-- The floats from `first` in steps, up to `last` exclusively. -/
  | floatSteps (first last step : Float)
  /-- The characters of a text, to be walked through. -/
  | chars (cs : List Char)
  /-- The bits of an integer, to be walked through. -/
  | bits (bs : List Bool)
  /-- An item of a blob, as a loop meets it. -/
  | byte (b : UInt8)
  /-- A moment, in nanoseconds from the one at which the script runs. -/
  | moment (nanoseconds : Int)
  /-- A function by its name, with leading arguments already given. -/
  | function (name : String) (captured : List Value)
  /-- What a captured variable holds is in this cell. -/
  | shared (cell : Nat)
  deriving Inhabited

namespace Value

/-- The kinds of values that operators and functions tell apart. -/
inductive Kind where
  | unit
  | bool
  | int
  | float
  | char
  | text
  | blob
  | array
  | map
  | range
  | closedRange
  | steps
  | floatSteps
  | chars
  | bits
  | byte
  | moment
  | function
  | shared
  deriving DecidableEq, Repr

def kind : Value → Kind
  | .unit => .unit
  | .bool _ => .bool
  | .int _ => .int
  | .float _ => .float
  | .char _ => .char
  | .text _ => .text
  | .blob _ => .blob
  | .array _ => .array
  | .map _ => .map
  | .range _ _ closed => if closed then .closedRange else .range
  | .steps _ _ _ => .steps
  | .floatSteps _ _ _ => .floatSteps
  | .chars _ => .chars
  | .bits _ => .bits
  | .byte _ => .byte
  | .moment _ => .moment
  | .function _ _ => .function
  | .shared _ => .shared

/-- The name of a kind as scripts and most messages give it. -/
def Kind.name : Kind → String
  | .unit => "()"
  | .bool => "bool"
  | .int => "i64"
  | .float => "f64"
  | .char => "char"
  | .text => "string"
  | .blob => "blob"
  | .array => "array"
  | .map => "map"
  | .range => "range"
  | .closedRange => "range="
  | .steps | .floatSteps | .chars | .bits => "range"
  | .byte => "u8"
  | .moment => "timestamp"
  | .function => "Fn"
  | .shared => "shared"

/-- The name of a kind in the signature of a call. -/
def Kind.signature : Kind → String
  | .text => "&str | ImmutableString | String"
  | k => k.name

/-- The name of a kind in messages about the host's data. -/
def Kind.hostName : Kind → String
  | .range => "Range<i64>"
  | .closedRange => "RangeInclusive<i64>"
  | .steps => "StepRange<i64>"
  | .floatSteps => "StepRange<f64>"
  | .chars => "CharsStream"
  | .bits => "BitRange"
  | k => k.name

/-- The name of a kind in messages about a wrong kind of data. -/
def Kind.longName : Kind → String
  | .range => "core::ops::range::Range<i64>"
  | .closedRange => "core::ops::range::RangeInclusive<i64>"
  | .steps => "rhai::packages::iter_basic::StepRange<i64>"
  | .floatSteps => "rhai::packages::iter_basic::StepRange<f64>"
  | .chars => "rhai::packages::iter_basic::CharsStream"
  | .bits => "rhai::packages::iter_basic::BitRange"
  | k => k.name

/-- Whether values of a kind are foreign to the operators: they are comparable only where a function says
so, not even as different from values of other kinds. -/
def Kind.isForeign : Kind → Bool
  | .range | .closedRange | .steps | .floatSteps | .chars | .bits | .byte => true
  | _ => false

def kindName (v : Value) : String := v.kind.name

def isUnit : Value → Bool
  | .unit => true
  | _ => false

def isMap : Value → Bool
  | .map _ => true
  | _ => false

def asText? : Value → Option String
  | .text s => some s
  | _ => none

def asItems? : Value → Option (List Value)
  | .array items => some items
  | _ => none

def asMembers? : Value → Option (List (String × Value))
  | .map members => some members
  | _ => none

/-- A member put into a sorted list of members, replacing the one of the same key. -/
def insertMember (key : String) (value : Value) : List (String × Value) → List (String × Value)
  | [] => [(key, value)]
  | (k, v) :: rest =>
    if key < k then (key, value) :: (k, v) :: rest
    else if key = k then (key, value) :: rest
    else (k, v) :: insertMember key value rest

/-- The map of these members; of two with one key the later counts. -/
def ofMembers (members : List (String × Value)) : Value :=
  .map (members.foldl (fun sorted (k, v) => insertMember k v sorted) [])

/-- An integer value of a count. -/
def ofNat (n : Nat) : Value := .int (Int64.ofNat n)

/-- The name closures go by; it is no name a script can write. -/
def closureMark : String := "anon$"

/-- Whether a function is a closure. -/
def isClosureName (name : String) : Bool := closureMark.isPrefixOf name

/-! ## Literal equality -/

mutual

/-- Whether two values are the same literal: integers and floats differ, floats agree bit by bit.
Values that are not literals are never the same. -/
def sameLiteral : Value → Value → Bool
  | .unit, .unit => true
  | .bool a, .bool b => a == b
  | .int a, .int b => a == b
  | .float a, .float b => a.toBits == b.toBits
  | .char a, .char b => a == b
  | .text a, .text b => a == b
  | .blob a, .blob b => a == b
  | .array as, .array bs => sameItems as bs
  | .map as, .map bs => sameMembers as bs
  | _, _ => false

def sameItems : List Value → List Value → Bool
  | [], [] => true
  | a :: as, b :: bs => sameLiteral a b && sameItems as bs
  | _, _ => false

def sameMembers : List (String × Value) → List (String × Value) → Bool
  | [], [] => true
  | (k, a) :: as, (l, b) :: bs => k == l && sameLiteral a b && sameMembers as bs
  | _, _ => false

end

/-- Whether a number lies in a range. -/
def liesIn (v : Value) : Int64 × Int64 × Bool → Bool
  | (first, last, closed) =>
    match v with
    | .int n => first.toInt ≤ n.toInt && (n.toInt < last.toInt || closed && n == last)
    | .float x => first.toFloat ≤ x && (x < last.toFloat || closed && x == last.toFloat)
    | _ => false

/-! ## Size -/

/-- How large a value is: the bytes of its texts, the items of its arrays and blobs, and the members
of its maps, each counted through all levels. -/
structure Size where
  items : Nat := 0
  members : Nat := 0
  bytes : Nat := 0
  deriving DecidableEq, Repr

def Size.add (a b : Size) : Size :=
  ⟨a.items + b.items, a.members + b.members, a.bytes + b.bytes⟩

mutual

def size : Value → Size
  | .text s => { bytes := s.utf8ByteSize }
  | .blob bytes => { items := bytes.length }
  | .array items => sizeOfItems { items := items.length } items
  | .map members => sizeOfMembers { members := members.length } members
  | _ => {}

def sizeOfItems (sum : Size) : List Value → Size
  | [] => sum
  | v :: rest => sizeOfItems (sum.add v.size) rest

def sizeOfMembers (sum : Size) : List (String × Value) → Size
  | [] => sum
  | (_, v) :: rest => sizeOfMembers (sum.add v.size) rest

end

end Value

end LiveForm.Script

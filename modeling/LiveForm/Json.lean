import LiveForm.Decimal.Binary

/-!
# JSON values

The values of form elements, hook results and documents. Numbers keep the representation they were
written in: `3` and `3.0` are different values here, although most of the library compares them
through `Json.same` (`LiveForm.Json.Same`), which looks at the number and not at its spelling.

An integer lies in the range of the signed and unsigned 64-bit words together, and a float is
finite; both facts are fields of the number, so that a NaN can never reach a form. An object is the
list of its members in increasing order of their keys; `Json.insert` and `Json.object` keep it so.
-/

namespace LiveForm

/-- The integers a JSON number holds exactly: those of a signed or an unsigned 64-bit word. -/
def InWordRange (n : Int) : Prop := -2 ^ 63 ≤ n ∧ n < 2 ^ 64

instance (n : Int) : Decidable (InWordRange n) := inferInstanceAs (Decidable (_ ∧ _))

/-- A JSON number: an integer of at most 64 bits, or a finite float. -/
inductive Number where
  | int (n : Int) (inRange : InWordRange n)
  | real (x : Float) (finite : x.isFinite = true)
  deriving DecidableEq

namespace Number

/-- The nearest float, which is what comparisons, truth and ranges look at. -/
def toFloat : Number → Float
  | .int n _ => if 0 ≤ n then n.toNat.toUInt64.toFloat else -(-n).toNat.toUInt64.toFloat
  | .real x _ => x

/-- The number of a float, or `none` if there is none: the infinities and NaN are no numbers. -/
def ofFloat? (x : Float) : Option Number :=
  if h : x.isFinite = true then some (.real x h) else none

/-- The integer `n`, or the nearest float if `n` does not fit a 64-bit word. -/
def ofInt? (n : Int) : Option Number :=
  if h : InWordRange n then some (.int n h) else ofFloat? (Float.ofInt n)

end Number

/-- A JSON value. The members of an object are sorted by key. -/
inductive Json where
  | null
  | bool (b : Bool)
  | num (n : Number)
  | str (s : String)
  | arr (items : List Json)
  | obj (members : List (String × Json))

namespace Json

instance : Inhabited Json := ⟨.null⟩

/-! ## Equality -/

mutual

/-- Equality of representations: `3` and `3.0` differ. -/
def decEq : (a b : Json) → Decidable (a = b)
  | .null, .null => isTrue rfl
  | .bool a, .bool b =>
    if h : a = b then isTrue (h ▸ rfl) else isFalse fun e => h (by injection e)
  | .num a, .num b =>
    if h : a = b then isTrue (h ▸ rfl) else isFalse fun e => h (by injection e)
  | .str a, .str b =>
    if h : a = b then isTrue (h ▸ rfl) else isFalse fun e => h (by injection e)
  | .arr as, .arr bs =>
    match decEqItems as bs with
    | isTrue h => isTrue (h ▸ rfl)
    | isFalse h => isFalse fun e => h (by injection e)
  | .obj as, .obj bs =>
    match decEqMembers as bs with
    | isTrue h => isTrue (h ▸ rfl)
    | isFalse h => isFalse fun e => h (by injection e)
  | .null, .bool _ | .null, .num _ | .null, .str _ | .null, .arr _ | .null, .obj _
  | .bool _, .null | .bool _, .num _ | .bool _, .str _ | .bool _, .arr _ | .bool _, .obj _
  | .num _, .null | .num _, .bool _ | .num _, .str _ | .num _, .arr _ | .num _, .obj _
  | .str _, .null | .str _, .bool _ | .str _, .num _ | .str _, .arr _ | .str _, .obj _
  | .arr _, .null | .arr _, .bool _ | .arr _, .num _ | .arr _, .str _ | .arr _, .obj _
  | .obj _, .null | .obj _, .bool _ | .obj _, .num _ | .obj _, .str _ | .obj _, .arr _ =>
    isFalse nofun

def decEqItems : (as bs : List Json) → Decidable (as = bs)
  | [], [] => isTrue rfl
  | a :: as, b :: bs =>
    match decEq a b with
    | isTrue h =>
      match decEqItems as bs with
      | isTrue hs => isTrue (h ▸ hs ▸ rfl)
      | isFalse hs => isFalse fun e => hs (by injection e)
    | isFalse h => isFalse fun e => h (by injection e)
  | [], _ :: _ | _ :: _, [] => isFalse nofun

def decEqMembers : (as bs : List (String × Json)) → Decidable (as = bs)
  | [], [] => isTrue rfl
  | (k, a) :: as, (l, b) :: bs =>
    if hk : k = l then
      match decEq a b with
      | isTrue h =>
        match decEqMembers as bs with
        | isTrue hs => isTrue (hk ▸ h ▸ hs ▸ rfl)
        | isFalse hs => isFalse fun e => hs (by injection e)
      | isFalse h => isFalse fun e => h (by injection e with e; injection e)
    else isFalse fun e => hk (by injection e with e; injection e)
  | [], _ :: _ | _ :: _, [] => isFalse nofun

end

instance : DecidableEq Json := decEq

/-! ## Building and reading -/

/-- The integer `n` of a 64-bit word. -/
def int (n : Int) (inRange : InWordRange n := by decide) : Json := .num (.int n inRange)

/-- A count as a number; it is exact up to the range of a 64-bit word. -/
def nat (n : Nat) : Json :=
  match Number.ofInt? n with
  | some k => .num k
  | none => .null

/-- A float as a number; the infinities and NaN become `null`. -/
def ofFloat (x : Float) : Json :=
  match Number.ofFloat? x with
  | some n => .num n
  | none => .null

/-- A member put into a sorted list of members, replacing the one of the same key. -/
def insertMember (key : String) (value : Json) : List (String × Json) → List (String × Json)
  | [] => [(key, value)]
  | (k, v) :: rest =>
    if key < k then (key, value) :: (k, v) :: rest
    else if key = k then (key, value) :: rest
    else (k, v) :: insertMember key value rest

/-- The object of these members; of two with one key the later counts. -/
def object (members : List (String × Json)) : Json :=
  .obj (members.foldl (fun sorted (k, v) => insertMember k v sorted) [])

/-- The member of an object, or `none` for a missing key and for every other kind of value. -/
def get? (key : String) : Json → Option Json
  | .obj members => members.lookup key
  | _ => none

def isNull : Json → Bool
  | .null => true
  | _ => false

def asText? : Json → Option String
  | .str s => some s
  | _ => none

def asFlag? : Json → Option Bool
  | .bool b => some b
  | _ => none

def asItems? : Json → Option (List Json)
  | .arr items => some items
  | _ => none

def asMembers? : Json → Option (List (String × Json))
  | .obj members => some members
  | _ => none

def asNumber? : Json → Option Number
  | .num n => some n
  | _ => none

/-- A number that is a count. -/
def asNat? : Json → Option Nat
  | .num (.int n _) => if 0 ≤ n then some n.toNat else none
  | _ => none

/-- The word for the kind of a value, as messages name it. -/
def kindName : Json → String
  | .null => "null"
  | .bool _ => "bool"
  | .num _ => "number"
  | .str _ => "string"
  | .arr _ => "array"
  | .obj _ => "object"

end Json

end LiveForm

import LiveForm.Json
import LiveForm.Script.Value

/-!
# Values and JSON

Scripts are given JSON values and answer with them. `Value.ofJson` keeps everything but the integers
above the signed range, which become floats. `Value.toJson?` goes back: a character becomes a text, a
float that is no number becomes `null`, and ranges, functions and blobs have no JSON form.
-/

namespace LiveForm.Script.Value

/-- Why a value has no JSON form. -/
inductive Unconvertible where
  | bytes
  | kind (name : String)
  deriving DecidableEq, Repr

def Unconvertible.message : Unconvertible → String
  | .bytes => "Syntax error: invalid type: byte array, expected any valid JSON value"
  | .kind name => "Output type incorrect: " ++ name ++ " (expecting serde_json::value::Value)"

mutual

/-- A JSON value as scripts see it. -/
def ofJson : Json → Value
  | .null => .unit
  | .bool b => .bool b
  | .num n =>
    match n with
    | .int i _ => if i < 2 ^ 63 then .int (Int64.ofInt i) else .float n.toFloat
    | .real x _ => .float x
  | .str s => .text s
  | .arr items => .array (ofItems items)
  | .obj members => .map (ofMemberList members)

def ofItems : List Json → List Value
  | [] => []
  | v :: rest => ofJson v :: ofItems rest

def ofMemberList : List (String × Json) → List (String × Value)
  | [] => []
  | (k, v) :: rest => (k, ofJson v) :: ofMemberList rest

end

/-- An integer of a script as a JSON number. -/
def jsonOfInt (n : Int64) : Json :=
  match Number.ofInt? n.toInt with
  | some k => .num k
  | none => .null

mutual

/-- The JSON form of a value. -/
def toJson? : Value → Except Unconvertible Json
  | .unit => .ok .null
  | .bool b => .ok (.bool b)
  | .int n => .ok (jsonOfInt n)
  | .float x => .ok (.ofFloat x)
  | .char c => .ok (.str c.toString)
  | .text s => .ok (.str s)
  | .byte b => .ok (jsonOfInt (Int64.ofNat b.toNat))
  | .blob _ => .error .bytes
  | .array items => (toItems? items).map .arr
  | .map members => (toMemberList? members).map .obj
  | v => .error (.kind v.kind.hostName)

def toItems? : List Value → Except Unconvertible (List Json)
  | [] => .ok []
  | v :: rest => do
    let j ← toJson? v
    let js ← toItems? rest
    return j :: js

def toMemberList? : List (String × Value) → Except Unconvertible (List (String × Json))
  | [] => .ok []
  | (k, v) :: rest => do
    let j ← toJson? v
    let js ← toMemberList? rest
    return (k, j) :: js

end

/-- The JSON form of what a script ended with, or a message that says why there is none. -/
def asResult? (v : Value) : Except String Json :=
  match v.toJson? with
  | .ok j => .ok j
  | .error e => .error ("cannot convert " ++ v.kind.longName ++ " result: " ++ e.message)

end LiveForm.Script.Value

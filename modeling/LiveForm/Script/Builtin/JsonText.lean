import LiveForm.Script.Parser
import LiveForm.Script.Simplify

/-!
# JSON in scripts

A map can be written as JSON and read from it. Writing takes every value: one without a JSON form is written
as in messages, and a function as its name, in an array with what it has captured. Reading uses the rules of
scripts for all but braces and `null`: what a script can write, JSON can.
-/

namespace LiveForm.Script.Builtin

/-! ## Writing -/

mutual

/-- A value written as JSON. -/
def jsonText : Value → String
  | .unit => "null"
  | .function name [] => Text.quoted name
  | .function name captured => "[" ++ Text.quoted name ++ moreJsonTexts captured ++ "]"
  | .map members => "\x7b" ++ jsonMembers members ++ "\x7d"
  | .array items => "[" ++ jsonItems items ++ "]"
  | .blob bytes => "[" ++ ",".intercalate (bytes.map fun b => toString b.toNat) ++ "]"
  | v => v.inner .message

def jsonItems : List Value → String
  | [] => ""
  | v :: rest => jsonText v ++ moreJsonTexts rest

def moreJsonTexts : List Value → String
  | [] => ""
  | v :: rest => "," ++ jsonText v ++ moreJsonTexts rest

def jsonMembers : List (String × Value) → String
  | [] => ""
  | (k, v) :: rest => Text.quoted k ++ ":" ++ jsonText v ++ moreJsonMembers rest

def moreJsonMembers : List (String × Value) → String
  | [] => ""
  | (k, v) :: rest => "," ++ Text.quoted k ++ ":" ++ jsonText v ++ moreJsonMembers rest

end

/-! ## Reading -/

/-- A token of JSON as a token of scripts. -/
def jsonToken (t : Located) : Located :=
  let notJson : Token := .fault (.foreign "Invalid JSON syntax")
  match t.token with
  | .reserved "null" => { t with token := .symbol "()" }
  | .symbol "\x7b" => { t with token := .symbol "#\x7b" }
  | .symbol "()" | .symbol "#\x7b" | .piece _ => { t with token := notJson }
  | _ => t

/-- The value of JSON. It has to be a map. -/
def readJson (limits : Limits) (source : String) : Except Cause Value := do
  let ts := (tokens limits.textSize source).map jsonToken
  match Expr.read limits true ts with
  | .error e => .error (.refused e)
  | .ok e =>
    let value := match Simplify.whole limits source.length [.expr e] with
      | [.expr e] => e.literal?
      | _ => none
    match value with
    | some (.map members) => .ok (.map members)
    | some v => .error (.unfitResult "map" v.kindName)
    | none => .error (.unfitResult "map" "()")

/-- The functions on JSON. -/
def jsonTexts (limits : Limits) (name : String) : Option (List Value → Option (Except Cause Outcome)) :=
  match name with
  | "to_json" => some fun
    | [.map members] => answer (.text (jsonText (.map members)))
    | _ => none
  | "parse_json" => some fun
    | [.text source] => attempt (readJson limits source)
    | _ => none
  | _ => none

end LiveForm.Script.Builtin

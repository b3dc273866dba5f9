import LiveForm.Form.Error
import LiveForm.Form.Template
import LiveForm.Json
import LiveForm.Script.Builtin
import LiveForm.Script.ValueJson

/-!
# What actions reach

An action may send requests, put variables into texts, and leave notices for the user. An `Exchange` is
the state of that during one run: who answers requests (`Network`), how variables are put into a text, the requests
that were sent, and the notices. Its functions are named and typed for scripts in `Exchange.function?`.
-/

namespace LiveForm

/-- A request as an action describes it. -/
structure HttpRequest where
  url : String
  method : String := "GET"
  headers : List (String × String) := []
  body : Option Json := none

/-- An answer. The body is a JSON value if it reads as one, else a text. -/
structure HttpResponse where
  status : Nat
  ok : Bool
  body : Json

/-- What comes back for one request. -/
inductive HttpReply where
  | response (r : HttpResponse)
  | failure (message : String)

/-- Who answers the requests of an action. -/
inductive Network where
  /-- Nobody: requests are not granted. -/
  | closed
  /-- Each request takes the next reply, and is noted. -/
  | prepared (replies : List HttpReply)
  /-- Every request is sent on its own. -/
  | reached (send : HttpRequest → HttpReply)

namespace HttpResponse

/-- A response as scripts see it. -/
def toJson (r : HttpResponse) : Json :=
  .obj [("body", r.body), ("ok", .bool r.ok), ("status", .nat r.status)]

end HttpResponse

/-! ## Requests described by scripts -/

namespace HttpRequest

open Script (Value Cause)

/-- The name messages have for a map of texts. -/
def textMapName : String :=
  "alloc::collections::btree::map::BTreeMap<alloc::string::String, alloc::string::String>"

/-- The name messages have for a value that is passed over. -/
def ignoredName : String := "serde_core::de::ignored_any::IgnoredAny"

def textOf (v : Value) : Except Cause String :=
  match v with
  | .text s => .ok s
  | v => .error (.unfitResult "String" v.kind.hostName)

def headerOf (member : String × Value) : Except Cause (String × String) := do
  return (member.1, ← textOf member.2)

def headersOf (v : Value) : Except Cause (List (String × String)) :=
  match v with
  | .map members => members.mapM headerOf
  | v => .error (.unfitResult textMapName v.kind.hostName)

def bodyOf (v : Value) : Except Cause (Option Json) :=
  match v with
  | .unit => .ok none
  | v =>
    match v.toJson? with
    | .ok j => .ok (some j)
    | .error e => .error (.unreadable e.message)

mutual

/-- Whether a value can be passed over; ranges, functions and whatever else is no data cannot. -/
def passOver : Value → Except Cause Unit
  | .array items => passOverItems items
  | .map members => passOverMembers members
  | .unit | .bool _ | .int _ | .float _ | .char _ | .text _ | .byte _ | .blob _ => .ok ()
  | v => .error (.unfitResult ignoredName v.kind.hostName)

def passOverItems : List Value → Except Cause Unit
  | [] => .ok ()
  | v :: rest => do
    passOver v
    passOverItems rest

def passOverMembers : List (String × Value) → Except Cause Unit
  | [] => .ok ()
  | (_, v) :: rest => do
    passOver v
    passOverMembers rest

end

/-- The request that a member of a map adds to. Members of other names are passed over. -/
def withMember (r : HttpRequest) (member : String × Value) : Except Cause HttpRequest := do
  match member with
  | ("body", v) => return { r with body := ← bodyOf v }
  | ("headers", v) => return { r with headers := ← headersOf v }
  | ("method", v) => return { r with method := ← textOf v }
  | ("url", v) => return { r with url := ← textOf v }
  | (_, v) =>
    passOver v
    return r

/-- The request that the members of a map describe; of several that are wrong the first is reported. -/
def ofMembers (members : List (String × Value)) : Except Cause HttpRequest := do
  let r ← members.foldlM withMember { url := "" }
  if (members.lookup "url").isNone then throw (.unreadable "Syntax error: missing field \x60url\x60")
  return r

end HttpRequest

/-! ## The exchange -/

structure Exchange where
  network : Network := .closed
  «variables» : Interpolator := .ofValues []
  /-- The requests that a prepared network has been asked. -/
  requests : List HttpRequest := []
  notifications : List String := []

namespace Exchange

open Script (Value Cause Outcome)

/-- What a network without an answer says. -/
def unavailable : HttpReply := .failure "requests are not available"

/-- The reply to a request, and the exchange after it. -/
def ask (x : Exchange) (r : HttpRequest) : HttpReply × Exchange :=
  match x.network with
  | .closed => (unavailable, x)
  | .prepared [] => (unavailable, { x with requests := x.requests ++ [r] })
  | .prepared (reply :: rest) =>
    (reply, { x with network := .prepared rest, requests := x.requests ++ [r] })
  | .reached send => (send r, x)

/-- A request sent for a script. A failure is thrown as a text. -/
def perform (x : Exchange) (r : HttpRequest) : Except Cause Outcome × Exchange :=
  let (reply, x) := x.ask r
  match reply with
  | .response response => (.ok ⟨Value.ofJson response.toJson, none⟩, x)
  | .failure message => (.error (.thrown (.text (FormError.request r.url message).message)), x)

/-- The functions that actions have and hooks do not. -/
def function? (name : String) (args : List Value) (x : Exchange) :
    Option (Except Cause Outcome × Exchange) :=
  match name, args with
  | "perform_request", [.map members] =>
    match HttpRequest.ofMembers members with
    | .ok r => some (x.perform r)
    | .error c => some (.error c, x)
  | "perform_request", [.text url] => some (x.perform { url })
  | "replace_variables", [.text s] =>
    some (.ok ⟨.text (x.variables.replace s), none⟩, x)
  | "notify", [.text s] =>
    some (.ok ⟨.unit, none⟩, { x with notifications := x.notifications ++ [s] })
  | _, _ => none

end Exchange

end LiveForm

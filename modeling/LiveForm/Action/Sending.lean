import LiveForm.Action.Exchange
import LiveForm.Address
import LiveForm.Text.Case

/-!
# Requests that can be sent

Before anything is sent, a request is looked at: its method and the names of its headers have to be
tokens, the values of its headers must not hold controls, and its address has to name a host that is
reached over HTTP (`HttpRequest.destination`). There is no transport in this library; a request without
a flaw fails as one that reaches nobody (`HttpRequest.unanswered`).
-/

namespace LiveForm

/-! ## Tokens -/

/-- Whether a character may stand in a method or in the name of a header. -/
def isTokenChar (c : Char) : Bool :=
  ('a' ≤ c && c ≤ 'z') || ('A' ≤ c && c ≤ 'Z') || ('0' ≤ c && c ≤ '9') ||
    "!#$%&\x27*+-.^_\x60|~".toList.contains c

def isToken (s : String) : Bool := !s.isEmpty && s.toList.all isTokenChar

/-- Whether a text may be the value of a header. -/
def isHeaderValue (s : String) : Bool :=
  s.toList.all fun c => c == '\t' || (0x20 ≤ c.toNat && c.toNat != 0x7F)

/-! ## Requests -/

namespace HttpRequest

/-- What is said of a request that cannot be put together. -/
def unbuilt : String := "builder error"

/-- What is said about the sending of a request to an address. -/
def about (a : Address) (what : String) : String := what ++ " for url (" ++ a.text ++ ")"

/-- The method as it is sent. -/
def sentMethod (r : HttpRequest) : String := Text.upper r.method

/-- Whether requests can be sent to an address: over HTTP, and to a host whose name holds no quotes or
braces. -/
def isReachable (a : Address) : Bool :=
  (a.scheme == "http" || a.scheme == "https") &&
    !(a.host.map Host.text).any (·.any "\"\x60\x7b\x7d".toList.contains)

/-- The address a request is sent to, or what keeps it from being sent. -/
def destination (r : HttpRequest) : Except String Address := do
  if !isToken r.sentMethod then throw ("invalid method '" ++ r.method ++ "': invalid HTTP method")
  let some written := Address.read? r.url | throw unbuilt
  let address := written.withoutCredentials
  if !address.hasHost then throw (about address unbuilt)
  if r.headers.any fun (name, value) => !isToken name || !isHeaderValue value then throw unbuilt
  if !isReachable address then throw (about address unbuilt)
  return address

/-- What a request comes to when there is nobody to answer. -/
def failure (r : HttpRequest) : String :=
  match r.destination with
  | .ok address => about address "error sending request"
  | .error message => message

/-- The reply to a request when there is nobody to answer. -/
def unanswered (r : HttpRequest) : HttpReply := .failure r.failure

/-- The headers as they are sent: their names in small letters, and the kind of the body unless it is
told. -/
def sentHeaders (r : HttpRequest) : List (String × String) :=
  let told := r.headers.map fun (name, value) => (name.map Char.toLower, value)
  if r.body.isSome && (told.lookup "content-type").isNone then
    ("content-type", "application/json") :: told
  else told

end HttpRequest

end LiveForm

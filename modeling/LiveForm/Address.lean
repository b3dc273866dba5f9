import LiveForm.Address.Domain

/-!
# Addresses

An address is a scheme and what it leads to: mostly a host and a path, and after them a query and a fragment.
The schemes of the web always have a host (`Scheme.isHosted`); there the two slashes may lean either way, and
hosts that are written differently but are the same are brought into one form. With other schemes a host is
kept as it is written, or there is none.

`Address.read?` reads the text of an address and `Address.text` writes it, with everything in percent-encoding
that its place does not hold as it is.
-/

namespace LiveForm

/-- A host. -/
inductive Host where
  /-- A name, or whatever another scheme takes for one. -/
  | named (name : List Char)
  /-- A number of 32 bits. -/
  | word (n : Nat)
  /-- Eight numbers of 16 bits. -/
  | eight (pieces : List Nat)
  /-- The place of a host, without one. -/
  | empty
  deriving DecidableEq, Repr

structure Address where
  scheme : String
  user : List Char := []
  password : Option (List Char) := none
  host : Option Host := none
  /-- The port, if it is not the one that is usual with the scheme. -/
  port : Option Nat := none
  path : List Char := []
  query : Option (List Char) := none
  fragment : Option (List Char) := none
  deriving DecidableEq, Repr

/-! ## Schemes -/

namespace Scheme

/-- The schemes with a host, and the ports that are usual with them. -/
def ports : List (String × Nat) := [("http", 80), ("https", 443), ("ws", 80), ("wss", 443), ("ftp", 21)]

/-- Whether a host always follows. -/
def isHosted (scheme : String) : Bool := (ports.lookup scheme).isSome

/-- Whether a scheme is one of those whose addresses are brought into one form. -/
def isSpecial (scheme : String) : Bool := isHosted scheme || scheme == "file"

end Scheme

namespace Host

def text : Host → List Char
  | named name => name
  | word n => (Address.wordText n).toList
  | eight pieces => '[' :: (Address.eightText pieces).toList ++ [']']
  | empty => []

/-- The host between brackets. -/
def bracketed? (cs : List Char) : Option Host :=
  if cs.getLast? == some ']' then (Address.eightPieces? cs.dropLast).map eight else none

/-- The host that characters write, as one of the web. -/
def known? : List Char → Option Host
  | '[' :: rest => bracketed? rest
  | cs => do
    let name ← Address.hostName? cs
    if Address.endsInNumber name then (Address.wordOfHost? name).map word else some (named name)

/-- The host that characters write, as one of any other scheme. -/
def foreign? : List Char → Option Host
  | '[' :: rest => bracketed? rest
  | [] => some empty
  | cs =>
    if cs.any fun c => c == '\x00' || " #/:<>?@[\\]^|".toList.contains c then none
    else some (named (Address.encoded .controls cs))

end Host

namespace Address

/-! ## Cutting an address into its parts -/

def isAlpha (c : Char) : Bool := ('a' ≤ c && c ≤ 'z') || ('A' ≤ c && c ≤ 'Z')

def isDigit (c : Char) : Bool := '0' ≤ c && c ≤ '9'

/-- The text of an address without the blanks around it and the line breaks in it. -/
def clean (s : String) : List Char :=
  let isOuter (c : Char) : Bool := c.toNat ≤ 0x20
  let cs := ((s.toList.dropWhile isOuter).reverse.dropWhile isOuter).reverse
  cs.filter fun c => c != '\t' && c != '\n' && c != '\r'

/-- The scheme and what follows its colon. -/
def scheme? (cs : List Char) : Option (String × List Char) :=
  let isSchemeChar (c : Char) : Bool := isAlpha c || isDigit c || c == '+' || c == '-' || c == '.'
  match cs.span isSchemeChar with
  | (first :: more, ':' :: rest) =>
    if isAlpha first then some (String.ofList ((first :: more).map Char.toLower), rest) else none
  | _ => none

/-- Whether a character separates the parts of a path; in special schemes a backslash does, too. -/
def isSlash (special : Bool) (c : Char) : Bool := c == '/' || (special && c == '\\')

/-- Whether a character ends the part of an address that names a host. -/
def endsAuthority (special : Bool) (c : Char) : Bool := isSlash special c || c == '?' || c == '#'

/-! ## Users and hosts -/

/-- What stands before the last of a character, and what stands after it. -/
def aroundLast? (c : Char) (cs : List Char) : Option (List Char × List Char) :=
  if cs.contains c then
    let after := (cs.reverse.takeWhile (· != c)).reverse
    some ((cs.take (cs.length - after.length)).dropLast, after)
  else none

/-- The name of a user and a password. -/
def credentials (cs : List Char) : List Char × Option (List Char) :=
  let (user, password) := cs.span (· != ':')
  (encoded .user user, if 1 < password.length then some (encoded .user (password.drop 1)) else none)

/-- The characters of a host, up to a colon that is not between brackets, and the rest. -/
def hostSpan : (inBrackets : Bool) → List Char → List Char × List Char
  | _, [] => ([], [])
  | inBrackets, c :: rest =>
    if c == ':' && !inBrackets then ([], c :: rest)
    else
      let (host, after) := hostSpan (c == '[' || (inBrackets && c != ']')) rest
      (c :: host, after)

/-- The port that digits write, if they write one. -/
def port? (digits : List Char) : Option (Option Nat) :=
  if !digits.all isDigit then none
  else
    let n := digits.foldl (fun n c => 10 * n + (c.toNat - '0'.toNat)) 0
    if 65535 < n then none else some (if digits.isEmpty then none else some n)

/-- The address with what stands between its slashes and its path; `isLast` tells that nothing comes after
it. A user and a port do not stand without a host, and the mark of a user does not stand alone before more. -/
def withAuthority? (a : Address) (isLast : Bool) (cs : List Char) : Option Address := do
  let around := aroundLast? '@' cs
  guard (isLast || around != some ([], []))
  let (before, after) := around.getD ([], cs)
  let (user, password) := credentials before
  let (name, rest) := hostSpan false after
  let host ← if Scheme.isHosted a.scheme then Host.known? name else Host.foreign? name
  let port ← port? (rest.drop 1)
  guard (host != .empty || (rest.isEmpty && user.isEmpty && password.isNone))
  return { a with user, password, host, port := port.filter (some · != Scheme.ports.lookup a.scheme) }

/-! ## Paths -/

/-- Whether a part of a path stands for the place where it is. -/
def isHere (cs : List Char) : Bool :=
  let s := String.ofList (cs.map Char.toLower)
  s == "." || s == "%2e"

/-- Whether a part of a path stands for the place above. -/
def isAbove (cs : List Char) : Bool :=
  [".", "%2e"].any fun first => [".", "%2e"].any fun second =>
    String.ofList (cs.map Char.toLower) == first ++ second

/-- The parts of a path, the last one first, after more of them; the last of all is marked by having no part
after it. -/
def walk (done : List (List Char)) : List (List Char) → List (List Char)
  | [] => done
  | [part] =>
    if isAbove part then [] :: done.drop 1
    else if isHere part then [] :: done
    else part :: done
  | part :: rest =>
    if isAbove part then walk (done.drop 1) rest
    else if isHere part then walk done rest
    else walk (part :: done) rest

/-- A path of parts, each after a slash. -/
def pathText (parts : List (List Char)) : List Char := parts.flatMap ('/' :: ·)

/-- The parts of characters between slashes. -/
def partsOfPath (special : Bool) (cs : List Char) : List (List Char) :=
  partsBetween '/' (cs.map fun c => if isSlash special c then '/' else c)

/-- The path that characters write; the first of them is a slash, or one is added. -/
def pathOf (special : Bool) (cs : List Char) : List Char :=
  let parts := match partsOfPath special cs with
    | [] :: more => if more.isEmpty then [[]] else more
    | parts => parts
  pathText ((walk [] (parts.map (encoded .path))).reverse)

/-- A path of a file, without slashes at its start except one. -/
def filePath (cs : List Char) : List Char := '/' :: (pathOf true cs).dropWhile (· == '/')

/-! ## Reading -/

/-- The address with its query and its fragment. -/
def withEnd (a : Address) (cs : List Char) : Address :=
  let (before, fragment) := cs.span (· != '#')
  let escapes : Escapes := if Scheme.isSpecial a.scheme then .hostedQuery else .query
  { a with
    query := match before with
      | '?' :: query => some (encoded escapes query)
      | _ => none
    fragment := match fragment with
      | '#' :: fragment => some (encoded .fragment fragment)
      | _ => none }

/-- What stands before a query or a fragment, and the rest. -/
def pathSpan (cs : List Char) : List Char × List Char := cs.span fun c => c != '?' && c != '#'

/-- The address of a scheme, with what follows two slashes. -/
def hostedFrom? (scheme : String) (cs : List Char) : Option Address := do
  let special := Scheme.isSpecial scheme
  let (authority, rest) := cs.span (!endsAuthority special ·)
  let a ← withAuthority? { scheme } rest.isEmpty authority
  let (way, rest) := pathSpan rest
  let path := if way.isEmpty && !special then [] else pathOf special way
  return withEnd { a with path } rest

/-- The address of a file. -/
def fileFrom? (cs : List Char) : Option Address := do
  match cs with
  | a :: b :: more =>
    if isSlash true a && isSlash true b then
      let (name, rest) := more.span (!endsAuthority true ·)
      let host ← if name.isEmpty then some .empty else Host.known? name
      let host := if host = .named "localhost".toList then .empty else host
      let (way, rest) := pathSpan rest
      return withEnd { scheme := "file", host := some host, path := filePath way } rest
    else
      let (way, rest) := pathSpan cs
      return withEnd { scheme := "file", host := some .empty, path := filePath way } rest
  | cs =>
    let (way, rest) := pathSpan cs
    return withEnd { scheme := "file", host := some .empty, path := filePath way } rest

/-- The address that a text writes, or nothing if it writes none. -/
def read? (s : String) : Option Address := do
  let (scheme, rest) ← scheme? (clean s)
  if Scheme.isHosted scheme then hostedFrom? scheme (rest.dropWhile (isSlash true))
  else if scheme == "file" then fileFrom? rest
  else
    match rest with
    | '/' :: '/' :: more => hostedFrom? scheme more
    | rest =>
      let (way, rest) := pathSpan rest
      let path := if way.head? == some '/' then pathOf false way else encoded .controls way
      return withEnd { scheme, path } rest

/-! ## Writing -/

/-- Whether the address names a host. -/
def hasHost (a : Address) : Bool := a.host.any (· != .empty)

/-- The path and the query, as they are asked for at the host. -/
def target (a : Address) : List Char := a.path ++ (a.query.map ('?' :: ·)).getD []

/-- The user and the password before a host. -/
def credentialsText (a : Address) : List Char :=
  let password := (a.password.map (':' :: ·)).getD []
  if a.user.isEmpty && password.isEmpty then [] else a.user ++ password ++ ['@']

/-- What stands between the scheme and the path. -/
def authorityText (a : Address) : List Char :=
  match a.host with
  | some host =>
    ['/', '/'] ++ a.credentialsText ++ host.text ++
      (a.port.map fun n => ':' :: (toString n).toList).getD []
  | none => if ['/', '/'].isPrefixOf a.path then ['/', '.'] else []

/-- The address as it is written. -/
def text (a : Address) : String :=
  String.ofList (a.scheme.toList ++ ':' :: a.authorityText ++ a.target ++
    (a.fragment.map ('#' :: ·)).getD [])

/-- The address without the name of a user and a password that are texts: they are sent apart from it. -/
def withoutCredentials (a : Address) : Address :=
  let password := a.password.bind decoded?
  match decoded? a.user with
  | some user => if user.isEmpty && password.isNone then a else { a with user := [], password := none }
  | none => a

end Address

end LiveForm

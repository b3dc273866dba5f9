import LiveForm.Json

/-!
# Shapes of documents

A form definition may be written in two notations. Both are read against one description of what is
expected, a `Schema`, and give one result, a `Datum`: the document with names resolved, kinds of
scalars settled and unknown members dropped. The readers (`LiveForm.Json.Reader`,
`LiveForm.Yaml.Decode`) differ in syntax and in the errors they report; what a definition means is
decided once, from the datum. `Schema.ofJson?` is the reading of a value that is already at hand.
-/

namespace LiveForm

/-- One member of a record: its name, other names it may go by, whether it has to be there, and what
it holds. -/
structure Member (σ : Type) where
  name : String
  aliases : List String := []
  required : Bool := false
  /-- Whether it has to be there when the record is given as a list. -/
  listed : Bool := required
  shape : σ

/-- What is expected at a place of a document. -/
inductive Schema where
  /-- Any value at all. -/
  | any
  | text
  | flag
  | real
  /-- An integer from zero to a bound of 64 bits. -/
  | count
  /-- `null`, or what the schema says. -/
  | optional (of : Schema)
  | list (of : Schema)
  /-- One of these words, which may also be the one key of an object that holds `null`. -/
  | word (choices : List String)
  /-- Members with free names and text values. -/
  | texts
  /-- Members with fixed names; `title` is what messages call the record. -/
  | record (title : String) (members : List (Member Schema))

/-- What a document says at a place, once it has been read against its schema. Members that are
absent are absent here; an optional place that holds `null` is `absent`. -/
inductive Datum where
  | absent
  | value (v : Json)
  | text (s : String)
  | flag (b : Bool)
  | real (x : Float)
  | count (n : Nat)
  | list (items : List Datum)
  | record (members : List (String × Datum))

namespace Member

/-- Whether the member goes by this name. -/
def answersTo {σ : Type} (m : Member σ) (name : String) : Bool :=
  m.name == name || m.aliases.contains name

end Member

namespace Datum

instance : Inhabited Datum := ⟨.absent⟩

/-- A member of a record. -/
def get? (name : String) : Datum → Option Datum
  | .record members => members.lookup name
  | _ => none

def asText? : Datum → Option String
  | .text s => some s
  | _ => none

def asFlag? : Datum → Option Bool
  | .flag b => some b
  | _ => none

def asReal? : Datum → Option Float
  | .real x => some x
  | _ => none

def asCount? : Datum → Option Nat
  | .count n => some n
  | _ => none

def asValue? : Datum → Option Json
  | .value v => some v
  | _ => none

def asList? : Datum → Option (List Datum)
  | .list items => some items
  | _ => none

/-- A member read as text; absent and ill-shaped members give nothing. -/
def textAt? (d : Datum) (name : String) : Option String := (d.get? name).bind asText?

def flagAt? (d : Datum) (name : String) : Option Bool := (d.get? name).bind asFlag?

def realAt? (d : Datum) (name : String) : Option Float := (d.get? name).bind asReal?

def countAt? (d : Datum) (name : String) : Option Nat := (d.get? name).bind asCount?

def valueAt? (d : Datum) (name : String) : Option Json := (d.get? name).bind asValue?

def listAt? (d : Datum) (name : String) : Option (List Datum) := (d.get? name).bind asList?

end Datum

namespace Schema

/-! ## Reading a value -/

/-- The greatest count: what an unsigned word of 64 bits holds. -/
def greatestCount : Nat := 2 ^ 64 - 1

/-- Members that all hold text. -/
def textMembers? : List (String × Json) → Option (List (String × Datum))
  | [] => some []
  | (k, .str s) :: rest => (textMembers? rest).map ((k, .text s) :: ·)
  | _ => none

mutual

/-- A value read against a schema, or `none` if it does not fit. -/
def ofJson? : Schema → Json → Option Datum
  | .any, v => some (.value v)
  | .text, .str s => some (.text s)
  | .flag, .bool b => some (.flag b)
  | .real, .num n => some (.real n.toFloat)
  | .count, .num (.int n _) => if 0 ≤ n then some (.count n.toNat) else none
  | .optional _, .null => some .absent
  | .optional of, v => of.ofJson? v
  | .list of, .arr items => (items.mapM of.ofJson?).map .list
  | .word choices, .str s | .word choices, .obj [(s, .null)] =>
    if choices.contains s then some (.text s) else none
  | .texts, .obj members =>
    (textMembers? members).map .record
  | .record _ shape, .obj members => (membersOfJson? shape members).map .record
  | .record _ shape, .arr items => (itemsOfJson? shape items).map .record
  | _, _ => none

/-- The members of a record in the order of the schema, each under its own name. -/
def membersOfJson? : List (Member Schema) → List (String × Json) → Option (List (String × Datum))
  | [], _ => some []
  | m :: rest, members =>
    match members.filter fun (k, _) => m.answersTo k with
    | [] => if m.required then none else membersOfJson? rest members
    | [(_, v)] => do
      let d ← m.shape.ofJson? v
      let ds ← membersOfJson? rest members
      return (m.name, d) :: ds
    | _ => none

/-- The members of a record that is given as a list of them in the order of the schema. The list may
end early where the members left out are not required. -/
def itemsOfJson? : List (Member Schema) → List Json → Option (List (String × Datum))
  | [], [] => some []
  | [], _ :: _ => none
  | m :: rest, [] => if m.listed then none else itemsOfJson? rest []
  | m :: rest, v :: items => do
    let d ← m.shape.ofJson? v
    let ds ← itemsOfJson? rest items
    return (m.name, d) :: ds

end

end Schema

end LiveForm

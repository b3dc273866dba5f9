import LiveForm.Form.Range
import LiveForm.Json.Members

/-!
# Snapshots of a form

A snapshot is the state of all elements at one moment, together with the initial values that a reset
goes back to. The ids of its elements are distinct, and it carries the proof of this: a snapshot is built from
elements that were looked through for a repeated id (`Snapshot.ofElements?`), and an edit changes no id
(`Snapshot.update`). Edits give a new snapshot. Values enter through `Element.clamp` wherever they come from.
-/

namespace LiveForm

/-- Values by id, each id once and all in order. -/
@[ext]
structure Values where
  members : Json.Members
  ordered : members.Ordered
  deriving DecidableEq

namespace Values

instance : EmptyCollection Values := ⟨[], List.Pairwise.nil⟩

/-- The values of a list of pairs; of two for one id the later counts. -/
def ofList (pairs : List (String × Json)) : Values := ⟨.ofList pairs, Json.Members.ordered_ofList pairs⟩

-- Where values are wanted, pairs stand for the values of them, and values stand for their members.
instance : Coe (List (String × Json)) Values := ⟨ofList⟩

instance : Coe Values (List (String × Json)) := ⟨members⟩

def ids (values : Values) : List String := values.members.map (·.1)

def lookup (values : Values) (id : String) : Option Json := values.members.lookup id

end Values

/-- Elements that share no id. -/
def Distinct (es : List Element) : Prop := (es.map (·.id)).Nodup

instance (es : List Element) : Decidable (Distinct es) := inferInstanceAs (Decidable (List.Nodup _))

theorem Distinct.of_ids {es es' : List Element} (hd : Distinct es)
    (h : es'.map (·.id) = es.map (·.id)) : Distinct es' := by
  rw [Distinct, h]
  exact hd

/-- The state of a form: its elements, and the values that a reset restores. -/
@[ext]
structure Snapshot where
  elements : List Element
  initial : Values
  /-- An id belongs to one element. -/
  distinct : Distinct elements
  deriving DecidableEq

namespace Snapshot

/-- The first id that repeats an earlier one. -/
def firstDuplicate? (seen : List String) : List Element → Option String
  | [] => none
  | e :: rest => if seen.contains e.id then some e.id else firstDuplicate? (e.id :: seen) rest

/-- No id repeats an earlier one, or one that was seen before. -/
theorem firstDuplicate?_eq_none {es : List Element} {seen : List String} :
    firstDuplicate? seen es = none ↔ Distinct es ∧ ∀ e ∈ es, e.id ∉ seen := by
  induction es generalizing seen with
  | nil => simp [firstDuplicate?, Distinct]
  | cons e es ih =>
    simp only [firstDuplicate?]
    split
    · next h =>
      have hmem : e.id ∈ seen := List.contains_iff_mem.1 h
      exact iff_of_false nofun fun hd => hd.2 e List.mem_cons_self hmem
    · next h =>
      have hmem : e.id ∉ seen := fun hm => h (List.contains_iff_mem.2 hm)
      rw [ih]
      simp only [Distinct, List.map_cons, List.nodup_cons, List.mem_cons, List.mem_map]
      grind

/-- The snapshot of elements with distinct ids. The error is the first id that is there twice. -/
def ofElements? (elements : List Element) (initial : Values) : Except String Snapshot :=
  match h : firstDuplicate? [] elements with
  | some id => .error id
  | none => .ok { elements, initial, distinct := (firstDuplicate?_eq_none.1 h).1 }

/-- The values elements hold, by id. -/
def valuesOf (elements : List Element) : Values :=
  .ofList (elements.map fun e => (e.id, e.value))

/-- The first snapshot of a form: the values it is defined with are its initial values. -/
def ofDefinition? (d : Definition) : Except String Snapshot :=
  ofElements? d.elements (valuesOf d.elements)

/-! ## Looking things up -/

def get? (s : Snapshot) (id : String) : Option Element := s.elements.find? (·.id == id)

def position? (s : Snapshot) (id : String) : Option Nat := s.elements.findIdx? (·.id == id)

def valueOf? (s : Snapshot) (id : String) : Option Json := (s.get? id).map (·.value)

def ids (s : Snapshot) : List String := s.elements.map (·.id)

def contains (s : Snapshot) (id : String) : Bool := s.elements.any (·.id == id)

/-! ## Edits -/

/-- An element with a value put into its range. -/
def withValueOf (e : Element) (value : Json) : Element := { e with value := e.clamp value }

/-- Replacing elements of an id by others of this id keeps all ids. -/
theorem ids_replaced (es : List Element) {id : String} {f : Element → Element}
    (hf : ∀ e, e.id = id → (f e).id = id) :
    (es.map fun e => if e.id == id then f e else e).map (·.id) = es.map (·.id) := by
  rw [List.map_map]
  refine List.map_congr_left fun e _ => ?_
  simp only [Function.comp_apply, beq_iff_eq]
  split
  · next he => rw [hf e he, he]
  · rfl

/-- The element of an id, if there is one, replaced by what `f` makes of it, which has the same id. As ids are
distinct, no other element is touched. -/
def update (s : Snapshot) (id : String) (f : Element → Element) (hf : ∀ e, e.id = id → (f e).id = id) :
    Snapshot where
  elements := s.elements.map fun e => if e.id == id then f e else e
  initial := s.initial
  distinct := s.distinct.of_ids (ids_replaced s.elements hf)

/-- The value of the element of an id set, if there is one. -/
def assignValue (s : Snapshot) (id : String) (value : Json) : Snapshot :=
  s.update id (withValueOf · value) fun _ he => he

theorem assignValue_elements (s : Snapshot) (id : String) (value : Json) : (s.assignValue id value).elements =
    s.elements.map fun e => if e.id == id then withValueOf e value else e := rfl

/-- One value edited, or `none` if there is no such element. -/
def setValue? (s : Snapshot) (id : String) (value : Json) : Option Snapshot :=
  if s.contains id then some (s.assignValue id value) else none

/-- The element of the id of `e` replaced by `e`, if there is one. -/
def assignElement (s : Snapshot) (e : Element) : Snapshot := s.update e.id (fun _ => e) fun _ _ => rfl

theorem assignElement_elements (s : Snapshot) (e : Element) :
    (s.assignElement e).elements = s.elements.map fun x => if x.id == e.id then e else x := rfl

/-- A whole element replaced by one of the same id, or `none` if there is none. -/
def replace? (s : Snapshot) (e : Element) : Option Snapshot :=
  if s.contains e.id then some (s.assignElement e) else none

/-- Edits made one after the other; ids without an element are passed over. -/
def assignEach (s : Snapshot) (edits : List (String × Json)) : Snapshot :=
  edits.foldl (fun s (id, v) => s.assignValue id v) s

/-- Several values edited. -/
def setValues (s : Snapshot) (values : Values) : Snapshot := s.assignEach values.members

/-- The ids that have no element, in their order. -/
def unknownIds (s : Snapshot) (values : Values) : List String :=
  values.ids.filter fun id => !s.contains id

/-- The initial values replaced, and every element that has one set to it. -/
def setInitial (s : Snapshot) (initial : Values) : Snapshot :=
  { s.setValues initial with initial }

end Snapshot

end LiveForm

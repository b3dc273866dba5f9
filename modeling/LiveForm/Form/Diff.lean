import LiveForm.Form.Snapshot
import LiveForm.Form.Alike

/-!
# Differences between snapshots

What a host has to be told when one snapshot takes the place of another: which values changed, which
elements appeared and vanished from sight, which became usable and which not, and whose options are
others. Values that differ in spelling only are no change. A host that starts from a snapshot and
follows the differences sees the same form as one that is given every snapshot (`Mirror`).
-/

namespace LiveForm

/-- A value before and after. -/
structure ValueChange where
  id : String
  before : Json
  after : Json
  deriving DecidableEq

/-- What changed from one snapshot to the next, by the ids of the elements. -/
structure Diff where
  values : List ValueChange := []
  shown : List String := []
  hidden : List String := []
  enabled : List String := []
  disabled : List String := []
  options : List String := []
  added : List String := []
  removed : List String := []
  deriving DecidableEq

namespace Diff

def isEmpty (d : Diff) : Bool :=
  d.values.isEmpty && d.shown.isEmpty && d.hidden.isEmpty && d.enabled.isEmpty &&
    d.disabled.isEmpty && d.options.isEmpty && d.added.isEmpty && d.removed.isEmpty

/-- The elements of a snapshot that were there before, each with its earlier state. -/
def common (before after : Snapshot) : List (Element × Element) :=
  after.elements.filterMap fun e => (before.get? e.id).map fun old => (old, e)

/-- The ids of the pairs for which a test holds. -/
def idsWhere (pairs : List (Element × Element)) (test : Element → Element → Bool) : List String :=
  (pairs.filter fun (old, new) => test old new).map fun (_, new) => new.id

/-- The change of an element's value, if it is one. -/
def valueChange? (old new : Element) : Option ValueChange :=
  if old.value.same new.value then none else some ⟨new.id, old.value, new.value⟩

/-- The differences from one snapshot to another, each list in the order of the later snapshot (and
what was removed in the order of the earlier). -/
def between (before after : Snapshot) : Diff :=
  let pairs := common before after
  { values := pairs.filterMap fun (old, new) => valueChange? old new
    shown := idsWhere pairs fun old new => !old.visible && new.visible
    hidden := idsWhere pairs fun old new => old.visible && !new.visible
    enabled := idsWhere pairs fun old new => old.disabled && !new.disabled
    disabled := idsWhere pairs fun old new => !old.disabled && new.disabled
    options := idsWhere pairs fun old new => !SelectOption.listAlike old.effectiveOptions new.effectiveOptions
    added := after.ids.filter fun id => !before.contains id
    removed := before.ids.filter fun id => !after.contains id }

end Diff

namespace Snapshot

/-- The change of an element from its initial value, which is `null` if there is none. -/
def changeFromInitial? (s : Snapshot) (e : Element) : Option ValueChange :=
  let initial := (s.initial.lookup e.id).getD .null
  if initial.same e.value then none else some ⟨e.id, initial, e.value⟩

/-- Which elements differ from their initial values. -/
def changedFromInitial (s : Snapshot) : List ValueChange :=
  s.elements.filterMap s.changeFromInitial?

end Snapshot

/-! ## Following a form by its differences -/

/-- What a mirror knows about an element. -/
structure Mirrored where
  id : String
  value : Json
  visible : Bool
  disabled : Bool
  deriving DecidableEq

/-- The state of a form as a follower sees it. -/
abbrev Mirror := List Mirrored

namespace Mirror

def ofSnapshot (s : Snapshot) : Mirror :=
  s.elements.map fun e => ⟨e.id, e.value, e.visible, e.disabled⟩

/-- One entry brought up to date. -/
def Mirrored.follow (d : Diff) (m : Mirrored) : Mirrored :=
  { m with
    value := ((d.values.find? (·.id == m.id)).map (·.after)).getD m.value
    visible := d.shown.contains m.id || m.visible && !d.hidden.contains m.id
    disabled := d.disabled.contains m.id || m.disabled && !d.enabled.contains m.id }

/-- A mirror brought up to date. New elements start as shown and usable, without a value. -/
def follow (d : Diff) (m : Mirror) : Mirror :=
  ((m.filter fun e => !d.removed.contains e.id).map (Mirrored.follow d)) ++
    d.added.map fun id => ⟨id, .null, true, false⟩

end Mirror

end LiveForm

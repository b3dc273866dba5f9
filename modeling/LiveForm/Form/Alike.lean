import LiveForm.Form.Snapshot
import LiveForm.Json.Same

/-!
# Alike options, elements and snapshots

Whether two option lists or two snapshots say the same thing in the same way. Values are compared with
`Json.alike`, so that an option `3` is another option than `3.0`; bounds are compared as floats.
-/

namespace LiveForm

/-- Two lists agree item by item. -/
def allAlike {α : Type} (alike : α → α → Bool) : List α → List α → Bool
  | [], [] => true
  | a :: as, b :: bs => alike a b && allAlike alike as bs
  | _, _ => false

namespace SelectOption

def alike (a b : SelectOption) : Bool := a.label == b.label && a.value.alike b.value

def listAlike (as bs : List SelectOption) : Bool := allAlike alike as bs

end SelectOption

/-- Both are absent, or both are there and agree. -/
def optionAlike {α : Type} (alike : α → α → Bool) : Option α → Option α → Bool
  | none, none => true
  | some a, some b => alike a b
  | _, _ => false

def Element.alike (a b : Element) : Bool :=
  a.id == b.id && a.type == b.type && a.title == b.title && a.value.alike b.value &&
    a.disabled == b.disabled && a.visible == b.visible &&
    SelectOption.listAlike a.options b.options &&
    optionAlike SelectOption.listAlike a.dynamicOptions b.dynamicOptions &&
    a.hooks == b.hooks && a.action == b.action && a.label == b.label &&
    optionAlike (· == ·) a.min b.min && optionAlike (· == ·) a.max b.max &&
    optionAlike (· == ·) a.step b.step && a.language == b.language && a.tooltip == b.tooltip &&
    a.group == b.group

/-- Snapshots are alike when their elements and their initial values are. -/
def Snapshot.alike (a b : Snapshot) : Bool :=
  allAlike Element.alike a.elements b.elements &&
    allAlike (fun (k, v) (l, w) => k == l && Json.alike v w) a.initial.members b.initial.members

end LiveForm

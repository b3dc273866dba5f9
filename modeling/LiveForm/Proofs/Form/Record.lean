import LiveForm.Form.Document
import Mathlib.Data.List.Perm.Basic

/-!
# Records that are read back

A record is written member by member, and members that are absent are left out. A reader goes the other way: for
each member of the schema it looks through all that is written for what goes by its name. So reading gives back
what was written, in whatever order the members stand, if no member of the schema answers to the name of another
(`Schema.Apart`) and each is read back by itself (`Schema.Entry.Fits`). This is `Schema.ofJson?_of_written`; the
records of a form are instances of it.
-/

namespace LiveForm

theorem Member.answersTo_name {σ : Type} (m : Member σ) : m.answersTo m.name = true := by
  rw [answersTo, beq_self_eq_true, Bool.true_or]

namespace Schema

/-- A member of a record with what is written for it and what this means, unless it is left out. -/
structure Entry where
  member : Member Schema
  content : Option (Json × Datum)

namespace Entry

def written (x : Entry) : List (String × Json) := optionalMember x.member.name (x.content.map (·.1))

def read (x : Entry) : List (String × Datum) := (x.content.map fun c => (x.member.name, c.2)).toList

/-- What is written is read as what it means, and a member that has to be there is. -/
def Fits (x : Entry) : Prop :=
  match x.content with
  | some (v, d) => x.member.shape.ofJson? v = some d
  | none => x.member.required = false

end Entry

/-- The members of a record. -/
def members : Schema → List (Member Schema)
  | .record _ members => members
  | _ => []

/-- The members of a record with their contents. -/
def entries (s : Schema) (contents : List (Option (Json × Datum))) : List Entry :=
  s.members.zipWith Entry.mk contents

/-- No member answers to the name of another. -/
def Apart (members : List (Member Schema)) : Prop :=
  members.Pairwise fun m m' => m.answersTo m'.name = false ∧ m'.answersTo m.name = false

instance (members : List (Member Schema)) : Decidable (Apart members) :=
  inferInstanceAs (Decidable (List.Pairwise _ _))

/-- A value that holds the entries of a record, in whatever order. -/
def Written (entries : List Entry) (v : Json) : Prop :=
  ∃ members, v = .obj members ∧ members.Perm (entries.flatMap Entry.written)

variable {xs : List Entry}

/-! ## What is found for a member -/

theorem Entry.filter_written_self (x : Entry) :
    (x.written.filter fun (k, _) => x.member.answersTo k) = x.written := by
  refine List.filter_eq_self.2 ?_
  rw [written]
  cases x.content with
  | none => exact nofun
  | some c =>
    rintro _ hmember
    obtain rfl := List.mem_singleton.1 hmember
    exact x.member.answersTo_name

theorem Entry.filter_written_other {x : Entry} {m : Member Schema}
    (h : m.answersTo x.member.name = false) :
    (x.written.filter fun (k, _) => m.answersTo k) = [] := by
  refine List.filter_eq_nil_iff.2 ?_
  rw [written]
  cases x.content with
  | none => exact nofun
  | some c =>
    rintro _ hmember
    obtain rfl := List.mem_singleton.1 hmember
    exact ne_true_of_eq_false h

/-- Among all that is written for a record, a member finds its own. -/
theorem filter_written (hapart : Apart (xs.map (·.member))) {x : Entry} (hx : x ∈ xs) :
    ((xs.flatMap Entry.written).filter fun (k, _) => x.member.answersTo k) = x.written := by
  induction xs with
  | nil => cases hx
  | cons y ys ih =>
    obtain ⟨hy, hys⟩ := List.pairwise_cons.1 hapart
    rw [List.flatMap_cons, List.filter_append]
    rcases List.mem_cons.1 hx with rfl | hx
    · have hothers : ((ys.flatMap Entry.written).filter fun (k, _) => x.member.answersTo k) = [] := by
        rw [List.filter_flatMap, List.flatMap_eq_nil_iff]
        exact fun z hz => Entry.filter_written_other (hy z.member (List.mem_map_of_mem hz)).1
      rw [x.filter_written_self, hothers, List.append_nil]
    · have hother := (hy x.member (List.mem_map_of_mem hx)).2
      rw [Entry.filter_written_other hother, List.nil_append]
      exact ih hys hx

theorem filter_of_perm (hapart : Apart (xs.map (·.member))) {members : List (String × Json)}
    (hperm : members.Perm (xs.flatMap Entry.written)) {x : Entry} (hx : x ∈ xs) :
    (members.filter fun (k, _) => x.member.answersTo k) = x.written := by
  have hfilter := hperm.filter fun (k, _) => x.member.answersTo k
  rw [filter_written hapart hx] at hfilter
  rw [Entry.written] at hfilter ⊢
  cases hcontent : x.content with
  | none =>
    rw [hcontent] at hfilter
    exact List.perm_nil.1 hfilter
  | some c =>
    rw [hcontent] at hfilter
    exact List.perm_singleton.1 hfilter

/-! ## Reading -/

theorem membersOfJson?_of_filter {members : List (String × Json)} (hfits : ∀ x ∈ xs, x.Fits)
    (hfilter : ∀ x ∈ xs, (members.filter fun (k, _) => x.member.answersTo k) = x.written) :
    membersOfJson? (xs.map (·.member)) members = some (xs.flatMap Entry.read) := by
  induction xs with
  | nil => rw [List.map_nil, membersOfJson?, List.flatMap_nil]
  | cons x xs ih =>
    obtain ⟨hfit, hfits⟩ := List.forall_mem_cons.1 hfits
    obtain ⟨hfound, hfilter⟩ := List.forall_mem_cons.1 hfilter
    rw [List.map_cons, membersOfJson?, hfound, ih hfits hfilter, List.flatMap_cons, Entry.written,
      Entry.read]
    rw [Entry.Fits] at hfit
    cases hcontent : x.content with
    | none =>
      rw [hcontent] at hfit
      simp only [Option.map_none, optionalMember, hfit, Bool.false_eq_true, if_false]
      rfl
    | some c =>
      rw [hcontent] at hfit
      simp only [Option.map_some, optionalMember, hfit]
      rfl

/-- **A record is read back**, whatever the order its members are written in. -/
theorem ofJson?_of_written {title : String} {shape : List (Member Schema)}
    (hapart : Apart shape) (hshape : xs.map (·.member) = shape) (hfits : ∀ x ∈ xs, x.Fits) {v : Json}
    (h : Written xs v) : (Schema.record title shape).ofJson? v = some (.record (xs.flatMap Entry.read)) := by
  obtain ⟨members, rfl, hperm⟩ := h
  subst hshape
  rw [ofJson?, membersOfJson?_of_filter hfits fun x hx => filter_of_perm hapart hperm hx, Option.map_some]

/-- What has been read for a member is found under its name. -/
theorem get?_read (hapart : Apart (xs.map (·.member))) {x : Entry} (hx : x ∈ xs) :
    (Datum.record (xs.flatMap Entry.read)).get? x.member.name = x.content.map (·.2) := by
  rw [Datum.get?]
  induction xs with
  | nil => cases hx
  | cons y ys ih =>
    obtain ⟨hy, hys⟩ := List.pairwise_cons.1 hapart
    have hother {m : Member Schema} {z : Entry} (h : m.answersTo z.member.name = false) :
        z.read.lookup m.name = none := by
      rw [Entry.read]
      cases z.content with
      | none => rfl
      | some c =>
        have hname : (m.name == z.member.name) = false := (Bool.or_eq_false_iff.1 h).1
        rw [Option.map_some, Option.toList_some, List.lookup_cons, hname]
        rfl
    rw [List.flatMap_cons, List.lookup_append]
    rcases List.mem_cons.1 hx with rfl | hx
    · have hothers : (ys.flatMap Entry.read).lookup x.member.name = none := by
        refine List.lookup_eq_none_iff.2 fun member hmember => ?_
        obtain ⟨z, hz, hmember⟩ := List.mem_flatMap.1 hmember
        have hnone := hother (hy z.member (List.mem_map_of_mem hz)).1
        exact List.lookup_eq_none_iff.1 hnone member hmember
      rw [hothers, Option.or_none, Entry.read]
      cases x.content with
      | none => rfl
      | some c => rw [Option.map_some, Option.toList_some, List.lookup_cons_self, Option.map_some]
    · rw [hother (hy x.member (List.mem_map_of_mem hx)).2, Option.none_or]
      exact ih hys hx

end Schema

end LiveForm

import LiveForm.Proofs.Form.Diff
import LiveForm.Proofs.Json.Same
import LiveForm.Proofs.Panel.Session
import LiveForm.Script.Sandbox

/-!
# Following a panel by its differences

A host that has the snapshot of a new panel and then nothing but the differences that operations tell can
keep up with the panel (`diffs_mirror`). It need not have the very values: a value that changes its
spelling only is not told, so that after many operations the host may hold a spelling from long ago. What
is kept from step to step is that its values are the same (`Mirrored.Shows`), and it takes the transitivity
of sameness to keep it.
-/

namespace LiveForm

/-- An entry shows an element: the id and the flags of the element, and a value that is the same. -/
structure Mirrored.Shows (m : Mirrored) (e : Element) : Prop where
  id : m.id = e.id
  visible : m.visible = e.visible
  disabled : m.disabled = e.disabled
  value : m.value.same e.value = true

namespace Mirror

/-- A mirror shows a snapshot, entry by entry. -/
def Shows (m : Mirror) (s : Snapshot) : Prop := List.Forall₂ Mirrored.Shows m s.elements

theorem shows_ofSnapshot (s : Snapshot) : Shows (ofSnapshot s) s := by
  rw [Shows, ofSnapshot, List.forall₂_map_left_iff, List.forall₂_same]
  exact fun e _ => ⟨rfl, rfl, rfl, Json.same_refl e.value⟩

/-! ## One difference -/

/-- An entry that shows an element shows its later state, once it has followed what is told of it. -/
theorem shows_follow {d : Diff} {m : Mirrored} {old new : Element} (ht : d.Tells old new)
    (hid : old.id = new.id) (hm : m.Shows old) : (Mirrored.follow d m).Shows new := by
  have hmid : m.id = new.id := hm.id.trans hid
  refine ⟨hmid, ?_, ?_, ?_⟩
  · simp only [Mirrored.follow, hmid, ht.shown, ht.hidden, hm.visible]
    cases old.visible <;> cases new.visible <;> rfl
  · simp only [Mirrored.follow, hmid, ht.enabled, ht.disabled, hm.disabled]
    cases old.disabled <;> cases new.disabled <;> rfl
  · simp only [Mirrored.follow, hmid, ht.values, Diff.valueChange?]
    split
    · next hsame =>
      -- nothing is told, and the entry keeps its spelling
      exact Json.same_trans hm.value hsame
    · exact Json.same_refl new.value

/-- Without additions and removals the entries follow one by one. -/
theorem follow_eq_map {d : Diff} (hadded : d.added = []) (hremoved : d.removed = []) (m : Mirror) :
    m.follow d = m.map (Mirrored.follow d) := by
  have hkept : (m.filter fun entry => !d.removed.contains entry.id) = m := by
    rw [hremoved]
    exact List.filter_eq_self.2 fun _ _ => rfl
  rw [follow, hkept, hadded, List.map_nil, List.append_nil]

theorem Shows.follow {before after : Snapshot} {d : Diff} {m : Mirror} (hm : Shows m before)
    (hids : after.ids = before.ids)
    (htells : ∀ pair ∈ before.elements.zip after.elements, d.Tells pair.1 pair.2)
    (hadded : d.added = []) (hremoved : d.removed = []) : Shows (m.follow d) after := by
  rw [follow_eq_map hadded hremoved]
  -- the entries and the pairs of elements side by side
  rw [Shows] at hm
  simp only [Shows, Snapshot.ids] at hids ⊢
  generalize before.elements = olds at hm hids htells
  generalize after.elements = news at hids htells ⊢
  induction hm generalizing news with
  | nil =>
    rw [List.map_eq_nil_iff.1 hids]
    exact .nil
  | cons hentry _ ih =>
    obtain ⟨new, rest, rfl, hid, hrest⟩ := List.map_eq_cons_iff.1 hids
    rw [List.zip_cons_cons, List.forall_mem_cons] at htells
    exact .cons (shows_follow htells.1 hid.symm hentry) (ih rest hrest htells.2)

/-- Where nothing is told, nothing changes. -/
theorem follow_empty (m : Mirror) : m.follow {} = m := by
  have hfollow : ∀ entry : Mirrored, Mirrored.follow {} entry = entry := fun entry => by
    simp [Mirrored.follow]
  rw [follow_eq_map rfl rfl, List.map_congr_left fun entry _ => hfollow entry, List.map_id']

end Mirror

namespace Panel

variable {Program : Type} {p : Panel Program}

theorem publish_ids (hp : p.Valid) {next : Snapshot} (hids : next.ids = p.published.ids) :
    (p.publish next).panel.published.ids = p.published.ids := by
  rw [publish_published hp.sound, Evaluation.settled_ids, hids]

/-- What a follower has at the start of a session it has at the end. -/
theorem Valid.mirror (hp : p.Valid) {m : Mirror} (hm : m.Shows p.published)
    (ops : List Operation) :
    Mirror.Shows ((p.diffs ops).foldl (fun m d => Mirror.follow d m) m) (p.after ops).published ∧
      ∀ d ∈ p.diffs ops, d.added = [] ∧ d.removed = [] := by
  induction ops generalizing p m with
  | nil => exact ⟨hm, nofun⟩
  | cons op ops ih =>
    simp only [diffs, after]
    split
    · next u hu =>
      rw [List.foldl_cons, List.forall_mem_cons]
      rcases perform_cases hu with rfl | ⟨next, hids, rfl⟩
      · -- there was nothing to do, and nothing is told
        rw [Mirror.follow_empty]
        obtain ⟨hshows, hrest⟩ := ih hp hm
        exact ⟨hshows, ⟨rfl, rfl⟩, hrest⟩
      · have hpublished := publish_ids hp hids
        have hadded := Diff.added_eq_nil hpublished
        have hremoved := Diff.removed_eq_nil hpublished
        have hfollowed := hm.follow hpublished
          (fun _ hpair => Diff.between_tells hpublished hpair) hadded hremoved
        obtain ⟨hshows, hrest⟩ := ih (publish_valid hp.sound) hfollowed
        exact ⟨hshows, ⟨hadded, hremoved⟩, hrest⟩
    · exact ih hp hm

/-- **A panel can be followed by its differences.** A mirror of the snapshot that a new panel publishes,
brought up to date with every difference that the operations of a session tell, shows what the panel
publishes: its ids in their order, its flags, and values that are the same. No difference adds or removes
an element. -/
theorem diffs_mirror (engine : Engine Program) (limit : Nat) (title : Option String) (s : Snapshot)
    (ops : List Operation) :
    let p := (ofSnapshot engine limit title s).panel
    Mirror.Shows ((p.diffs ops).foldl (fun m d => Mirror.follow d m) (Mirror.ofSnapshot p.published))
        (p.after ops).published ∧
      ∀ d ∈ p.diffs ops, d.added = [] ∧ d.removed = [] :=
  (ofSnapshot_valid engine limit title s).mirror (Mirror.shows_ofSnapshot _) ops

/-- A panel that is followed through an edit, an edit of an unknown id and a reset. -/
theorem diffs_mirror_edited :
    let s : Snapshot := ⟨[{ id := "a", type := .number, value := .int 1 }], .ofList [("a", .int 1)], by decide⟩
    let p := (ofSnapshot (Script.Sandbox.engine {}) 10 none s).panel
    let ops : List Operation := [.setValue "a" (.int 2), .setValue "b" .null, .reset]
    Mirror.Shows ((p.diffs ops).foldl (fun m d => Mirror.follow d m) (Mirror.ofSnapshot p.published))
      (p.after ops).published := by
  intro s p ops
  exact (diffs_mirror _ 10 none s ops).1

end Panel

end LiveForm

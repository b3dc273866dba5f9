import LiveForm.Form.Diff
import LiveForm.Proofs.Evaluation.FixedPoint
import LiveForm.Proofs.Evaluation.Writes
import Mathlib.Data.List.Induction

/-!
# The log of an evaluation

What an evaluation writes is recorded here write by write, from the very states it goes through: a write that
puts another value in place is one entry, with the value before and after, and a write that does not is none
(`Reaction.logOf`, `Evaluation.log`). The evaluator keeps less, the ids alone and each of them once. It follows
from the log that this is enough: the ids it keeps are those of the log, by their first entries
(`noted_nil`), and replaying the log on the values before gives the values after (`Accounts`). So what has
not been noted has not been touched.
-/

namespace LiveForm

variable {Program : Type}

/-! ## Replaying a log -/

namespace Element

/-- An element after a change, if the change is its own. -/
def replay (e : Element) (c : ValueChange) : Element :=
  if c.id = e.id then { e with value := c.after } else e

/-- An element after the changes of a log, one after the other. -/
def replayed (log : List ValueChange) (e : Element) : Element := log.foldl replay e

@[simp] theorem replay_id (e : Element) (c : ValueChange) : (e.replay c).id = e.id := by
  rw [replay]
  split <;> rfl

theorem replayed_cons (c : ValueChange) (log : List ValueChange) (e : Element) :
    e.replayed (c :: log) = (e.replay c).replayed log := rfl

theorem replayed_append (log more : List ValueChange) (e : Element) :
    e.replayed (log ++ more) = (e.replayed log).replayed more := List.foldl_append

@[simp] theorem replayed_id (log : List ValueChange) (e : Element) : (e.replayed log).id = e.id := by
  induction log generalizing e with
  | nil => rfl
  | cons c log ih => rw [replayed_cons, ih, replay_id]

/-- An element that a log does not mention is left as it is. -/
theorem replayed_of_not_mem {log : List ValueChange} {e : Element} (h : e.id ∉ log.map (·.id)) :
    e.replayed log = e := by
  induction log with
  | nil => rfl
  | cons c log ih =>
    obtain ⟨hc, hlog⟩ := not_or.1 (fun hmem => h (List.mem_cons.2 hmem))
    rw [replayed_cons, replay, if_neg fun hid => hc hid.symm]
    exact ih hlog

theorem replay_withoutDerived (e : Element) (c : ValueChange) :
    e.withoutDerived.replay c = (e.replay c).withoutDerived := by
  by_cases hid : c.id = e.id
  · rw [replay, replay, if_pos hid, if_pos (show c.id = e.withoutDerived.id from hid)]
    rfl
  · rw [replay, replay, if_neg hid, if_neg (show c.id ≠ e.withoutDerived.id from hid)]

/-- What is derived of an element plays no part in it. -/
theorem replayed_withoutDerived (log : List ValueChange) (e : Element) :
    e.withoutDerived.replayed log = (e.replayed log).withoutDerived := by
  induction log generalizing e with
  | nil => rfl
  | cons c log ih => rw [replayed_cons, replay_withoutDerived, ih, replayed_cons]

end Element

/-- With distinct ids, a change of the element at a place is a change of this element. -/
theorem Distinct.set_replay {es : List Element} (hd : Distinct es) {place : Nat} {e : Element}
    (he : es[place]? = some e) {c : ValueChange} (hc : c.id = e.id) :
    es.set place (e.replay c) = es.map (·.replay c) := by
  refine List.ext_getElem? fun j => ?_
  rw [List.getElem?_set, List.getElem?_map]
  split
  case isTrue hj =>
    subst hj
    rw [if_pos (List.getElem?_eq_some_iff.1 he).1, he, Option.map_some]
  case isFalse hne =>
    cases hother : es[j]? with
    | none => rfl
    | some other =>
      have hid : c.id ≠ other.id := by
        intro hid
        have hplace := hd.findIdx? hother
        rw [← hid, hc, hd.findIdx? he] at hplace
        exact hne (Option.some.inj hplace)
      rw [Option.map_some, Element.replay, if_neg hid]

/-! ## What is noted of a log -/

/-- The ids of a log, noted one after the other. -/
def noted (changed : List String) (log : List ValueChange) : List String :=
  log.foldl (fun changed c => Reaction.note changed c.id) changed

theorem noted_append (changed : List String) (log more : List ValueChange) :
    noted changed (log ++ more) = noted (noted changed log) more := List.foldl_append

theorem Reaction.note_nodup {changed : List String} (h : changed.Nodup) (id : String) :
    (note changed id).Nodup := by
  rw [note]
  split
  case isTrue => exact h
  case isFalse hnew =>
    refine List.nodup_append.2 ⟨h, List.nodup_singleton id, fun a ha b hb hab => hnew ?_⟩
    obtain rfl := List.mem_singleton.1 hb
    subst hab
    exact List.contains_iff_mem.2 ha

theorem noted_nodup {changed : List String} (h : changed.Nodup) (log : List ValueChange) :
    (noted changed log).Nodup := by
  induction log generalizing changed with
  | nil => exact h
  | cons c log ih => exact ih (Reaction.note_nodup h c.id)

/-- **First writes first.** What is noted of a log is every id in it once, in the order in which they first
occur. -/
theorem noted_nil (log : List ValueChange) : noted [] log = (log.map (·.id)).eraseDups := by
  induction log using List.reverseRecOn with
  | nil => rfl
  | append_singleton log c ih =>
    have hlast : noted [] (log ++ [c]) = Reaction.note (noted [] log) c.id := noted_append [] log [c]
    rw [hlast, ih, List.map_append, List.map_singleton, List.eraseDups_append, Reaction.note]
    by_cases hmem : c.id ∈ log.map (·.id)
    · have hnone : [c.id].removeAll (log.map (·.id)) = [] := by
        simp only [List.removeAll, List.filter_cons, List.elem_eq_mem, hmem, decide_true, Bool.not_true,
          Bool.false_eq_true, if_false, List.filter_nil]
      rw [if_pos (List.contains_iff_mem.2 (List.mem_eraseDups.2 hmem)), hnone]
      exact (List.append_nil _).symm
    · have hall : [c.id].removeAll (log.map (·.id)) = [c.id] := by
        simp only [List.removeAll, List.filter_cons, List.elem_eq_mem, hmem, decide_false, Bool.not_false,
          if_true, List.filter_nil]
      rw [if_neg fun h => hmem (List.mem_eraseDups.1 (List.contains_iff_mem.1 h)), hall]
      rfl

theorem mem_noted_nil {log : List ValueChange} {id : String} :
    id ∈ noted [] log ↔ id ∈ log.map (·.id) := by
  rw [noted_nil, List.mem_eraseDups]

theorem noted_eq_nil {log : List ValueChange} : noted [] log = [] ↔ log = [] := by
  constructor
  · intro h
    refine List.eq_nil_iff_forall_not_mem.2 fun c hc => ?_
    have hid : c.id ∈ noted [] log := mem_noted_nil.2 (List.mem_map_of_mem hc)
    rw [h] at hid
    cases hid
  · rintro rfl
    rfl

/-! ## Accounts -/

/-- A log accounts for what has happened between two states of an evaluation: the values are those of a
replay, the ids have been noted, and every entry is a change of an element of the form. -/
structure Accounts (log : List ValueChange) (es : List Element) (changed : List String)
    (es' : List Element) (changed' : List String) : Prop where
  values : es'.map Element.withoutDerived =
    (es.map (Element.replayed log)).map Element.withoutDerived
  noted : changed' = noted changed log
  known : ∀ c ∈ log, c.id ∈ es.map (·.id)
  differs : ∀ c ∈ log, c.before.same c.after = false

namespace Accounts

variable {log more : List ValueChange} {es es' es'' : List Element} {changed changed' changed'' : List String}

/-- Where only what is derived has changed, there is nothing to account for. -/
theorem of_withoutDerived (h : es'.map Element.withoutDerived = es.map Element.withoutDerived)
    (changed : List String) : Accounts [] es changed es' changed where
  values := by
    have hkept : es.map (Element.replayed []) = es := List.map_id' es
    rw [h, hkept]
  noted := rfl
  known := nofun
  differs := nofun

theorem ids (h : Accounts log es changed es' changed') : es'.map (·.id) = es.map (·.id) := by
  have hids := congrArg (List.map (·.id)) h.values
  simp only [List.map_map] at hids
  refine hids.trans (List.map_congr_left fun e _ => ?_)
  exact e.replayed_id log

/-- Logs are put together. -/
theorem trans (h : Accounts log es changed es' changed') (h' : Accounts more es' changed' es'' changed'') :
    Accounts (log ++ more) es changed es'' changed'' where
  values := by
    have hcommutes (log : List ValueChange) (es : List Element) :
        (es.map (Element.replayed log)).map Element.withoutDerived =
          (es.map Element.withoutDerived).map (Element.replayed log) := by
      rw [List.map_map, List.map_map]
      exact List.map_congr_left fun e _ => (e.replayed_withoutDerived log).symm
    rw [h'.values, hcommutes, h.values, hcommutes, hcommutes, List.map_map]
    exact List.map_congr_left fun e _ => (e.replayed_append log more).symm
  noted := by rw [h'.noted, h.noted, noted_append]
  known := fun c hc => (List.mem_append.1 hc).elim (h.known c) fun hc => h.ids ▸ h'.known c hc
  differs := fun c hc => (List.mem_append.1 hc).elim (h.differs c) (h'.differs c)

/-- The elements are there afterwards, with the values of the replay. -/
theorem exists_replayed (h : Accounts log es changed es' changed') {e : Element} (he : e ∈ es) :
    ∃ e' ∈ es', e'.id = e.id ∧ e'.value = (e.replayed log).value := by
  have hmem : (e.replayed log).withoutDerived ∈ es'.map Element.withoutDerived := by
    rw [h.values]
    exact List.mem_map_of_mem (List.mem_map_of_mem he)
  obtain ⟨e', he', hsame⟩ := List.mem_map.1 hmem
  have hid : e'.id = (e.replayed log).id := congrArg (·.id) hsame
  exact ⟨e', he', hid.trans (e.replayed_id log), congrArg (·.value) hsame⟩

/-- An element that has not been noted has the value it had before. -/
theorem value_eq (h : Accounts log es [] es' changed') (hd : Distinct es) {e e' : Element} (he : e ∈ es)
    (he' : e' ∈ es') (hid : e'.id = e.id) (hnoted : e.id ∉ changed') : e'.value = e.value := by
  obtain ⟨e'', he'', hid'', hvalue⟩ := h.exists_replayed he
  obtain rfl := (hd.of_ids h.ids).eq_of_id he' he'' (hid.trans hid''.symm)
  rw [h.noted, mem_noted_nil] at hnoted
  rw [hvalue, Element.replayed_of_not_mem hnoted]

end Accounts

/-! ## The log of reactions -/

namespace Reaction

/-- What a write changes, if it puts another value in place. -/
def logOf (r : Reaction) (w : ValueWrite) : List ValueChange :=
  (r.elements[w.place]?.bind fun e => Diff.valueChange? e (Snapshot.withValueOf e w.value)).toList

def logWrites (r : Reaction) : List ValueWrite → List ValueChange
  | [] => []
  | w :: ws => r.logOf w ++ (r.write w).logWrites ws

/-- The writes of the hook at a place. There are none if it fails. -/
def writesAt (engine : Engine Program) (place : Nat) (hook : Callable Program) (r : Reaction) :
    List ValueWrite :=
  match r.elements[place]?, r.views[place]? with
  | some _, some view =>
    match engine.callHook hook r.views view with
    | .ok (some i) => ((Evaluation.collectWrites r.elements r.views place i).toOption).getD []
    | _ => []
  | _, _ => []

/-- The log of the hooks from a place on. -/
def logFrom (engine : Engine Program) (place : Nat) (r : Reaction) :
    List (ResolvedHooks Program) → List ValueChange
  | [] => []
  | hooks :: rest =>
    match hooks.onValueChanged with
    | some hook =>
      r.logWrites (r.writesAt engine place hook) ++
        (r.callAt engine place hook).logFrom engine (place + 1) rest
    | none => r.logFrom engine (place + 1) rest

/-- A log accounts for a stretch of a reaction, which has written something just if there is an entry. -/
structure Logs (r : Reaction) (log : List ValueChange) (r' : Reaction) : Prop
    extends Accounts log r.elements r.changed r'.elements r'.changed where
  dirty : r'.dirty = (r.dirty || !log.isEmpty)

theorem Logs.refl (r : Reaction) : r.Logs [] r where
  toAccounts := Accounts.of_withoutDerived rfl r.changed
  dirty := (Bool.or_false _).symm

theorem Logs.trans {r r' r'' : Reaction} {log more : List ValueChange} (h : r.Logs log r')
    (h' : r'.Logs more r'') : r.Logs (log ++ more) r'' where
  toAccounts := h.toAccounts.trans h'.toAccounts
  dirty := by
    have hempty : (log ++ more).isEmpty = (log.isEmpty && more.isEmpty) := by cases log <;> rfl
    rw [h'.dirty, h.dirty, hempty, Bool.not_and, Bool.or_assoc]

/-- Reports are no writes. -/
theorem Logs.report (r : Reaction) (d : Diagnostic) : r.Logs [] (r.report d) where
  toAccounts := Accounts.of_withoutDerived rfl r.changed
  dirty := (Bool.or_false _).symm

theorem Logs.distinct {r r' : Reaction} {log : List ValueChange} (h : r.Logs log r')
    (hd : Distinct r.elements) : Distinct r'.elements := hd.of_ids h.ids

/-- **A write** is accounted for by its entry, or by none. -/
theorem write_logs {r : Reaction} (hd : Distinct r.elements) (w : ValueWrite) :
    r.Logs (r.logOf w) (r.write w) := by
  cases he : r.elements[w.place]? with
  | none =>
    have hwrite : r.write w = r := by simp only [write, he]
    rw [hwrite, logOf, he]
    exact Logs.refl r
  | some e =>
    rw [logOf, he, Option.bind_some, Diff.valueChange?]
    cases hsame : e.value.same (e.clamp w.value) with
    | true =>
      rw [write_of_same he hsame, Snapshot.withValueOf, if_pos hsame]
      exact Logs.refl r
    | false =>
      have hdiffers : e.value.same (Snapshot.withValueOf e w.value).value = false := hsame
      rw [write_of_not_same he hsame, hdiffers, if_neg Bool.false_ne_true, Option.toList_some]
      refine ⟨⟨?_, rfl, ?_, ?_⟩, (Bool.or_true _).symm⟩
      · have hreplay : e.replay ⟨e.id, e.value, e.clamp w.value⟩ = { e with value := e.clamp w.value } :=
          if_pos rfl
        have hset := hd.set_replay he (c := ⟨e.id, e.value, e.clamp w.value⟩) rfl
        rw [hreplay] at hset
        exact congrArg _ hset
      · rintro c hc
        obtain rfl := List.mem_singleton.1 hc
        have hmem : e ∈ r.elements := List.mem_of_getElem? he
        exact List.mem_map.2 ⟨e, hmem, rfl⟩
      · rintro c hc
        obtain rfl := List.mem_singleton.1 hc
        exact hsame

theorem writes_logs (writes : List ValueWrite) {r : Reaction} (hd : Distinct r.elements) :
    r.Logs (r.logWrites writes) (writes.foldl write r) := by
  induction writes generalizing r with
  | nil => exact Logs.refl r
  | cons w writes ih =>
    have hw := write_logs hd w
    exact hw.trans (ih (hw.distinct hd))

theorem callAt_logs (engine : Engine Program) (place : Nat) (hook : Callable Program) {r : Reaction}
    (hd : Distinct r.elements) :
    r.Logs (r.logWrites (r.writesAt engine place hook)) (r.callAt engine place hook) := by
  cases he : r.elements[place]? with
  | none =>
    simp only [writesAt, callAt, he]
    exact Logs.refl r
  | some e =>
    cases hview : r.views[place]? with
    | none =>
      simp only [writesAt, callAt, he, hview]
      exact Logs.refl r
    | some view =>
      simp only [writesAt, callAt, he, hview]
      cases engine.callHook hook r.views view with
      | error error => exact Logs.report r _
      | ok answer =>
        cases answer with
        | none => exact Logs.refl r
        | some i =>
          cases hwrites : Evaluation.collectWrites r.elements r.views place i with
          | error error =>
            simp only [hwrites]
            exact Logs.report r _
          | ok writes =>
            simp only [hwrites]
            exact writes_logs writes hd

/-- **A pass of reactions** is accounted for by its log. -/
theorem callFrom_logs (engine : Engine Program) (place : Nat) (hooks : List (ResolvedHooks Program))
    {r : Reaction} (hd : Distinct r.elements) :
    r.Logs (r.logFrom engine place hooks) (r.callFrom engine place hooks) := by
  induction hooks generalizing place r with
  | nil => exact Logs.refl r
  | cons own rest ih =>
    simp only [logFrom, callFrom]
    cases own.onValueChanged with
    | none => exact ih _ hd
    | some hook =>
      have hcall := callAt_logs engine place hook hd
      exact hcall.trans (ih _ (hcall.distinct hd))

end Reaction

/-! ## The log of passes -/

namespace Evaluation

def passLog (engine : Engine Program) (hooks : List (ResolvedHooks Program)) (p : Progress) :
    List ValueChange :=
  (Reaction.start (derive engine hooks p.elements).1 p.changed).logFrom engine 0 hooks

def iterateLog (engine : Engine Program) (hooks : List (ResolvedHooks Program)) :
    (left : Nat) → Progress → List ValueChange
  | 0, _ => []
  | left + 1, p =>
    let next := pass engine hooks p
    passLog engine hooks p ++ if next.converged then [] else iterateLog engine hooks left next

def runLog (engine : Engine Program) (hooks : List (ResolvedHooks Program)) (limit : Nat)
    (es : List Element) : List ValueChange :=
  iterateLog engine hooks (max limit 1) { elements := es }

/-- **The log of an evaluation**: what its hooks have changed, in the order they did. -/
def log (engine : Engine Program) (limit : Nat) (registry : Registry Program) (s : Snapshot) :
    List ValueChange :=
  runLog engine (registry.resolveAll engine s.elements).1 limit s.elements

section

variable (engine : Engine Program) (hooks : List (ResolvedHooks Program))

theorem pass_accounts {p : Progress} (hd : Distinct p.elements) :
    Accounts (passLog engine hooks p) p.elements p.changed (pass engine hooks p).elements
        (pass engine hooks p).changed ∧
      (pass engine hooks p).converged = (passLog engine hooks p).isEmpty := by
  have hderive := Accounts.of_withoutDerived (derive_withoutDerived engine hooks p.elements) p.changed
  have hreact := Reaction.callFrom_logs engine 0 hooks
    (r := Reaction.start (derive engine hooks p.elements).1 p.changed) (hd.of_ids hderive.ids)
  refine ⟨hderive.trans hreact.toAccounts, ?_⟩
  calc (pass engine hooks p).converged
      = !(false || !(passLog engine hooks p).isEmpty) := congrArg (!·) hreact.dirty
    _ = (passLog engine hooks p).isEmpty := by rw [Bool.false_or, Bool.not_not]

theorem iterate_accounts (left : Nat) {p : Progress} (hd : Distinct p.elements) :
    Accounts (iterateLog engine hooks left p) p.elements p.changed (iterate engine hooks left p).elements
      (iterate engine hooks left p).changed := by
  induction left generalizing p with
  | zero => exact Accounts.of_withoutDerived rfl p.changed
  | succ left ih =>
    have hpass := (pass_accounts engine hooks hd).1
    simp only [iterate, iterateLog]
    split
    · rw [List.append_nil]
      exact hpass
    · exact hpass.trans (ih (hd.of_ids hpass.ids))

/-- **An evaluation is accounted for by its log.** -/
theorem run_accounts (limit : Nat) {es : List Element} (hd : Distinct es) :
    Accounts (runLog engine hooks limit es) es [] (run engine hooks limit es).elements
      (run engine hooks limit es).changed := by
  have hiterate := iterate_accounts engine hooks (max limit 1) (p := { elements := es }) hd
  rw [run, settle]
  split
  · exact hiterate
  · have hsettle := hiterate.trans
      (Accounts.of_withoutDerived (derive_withoutDerived engine hooks _) _)
    rw [List.append_nil] at hsettle
    exact hsettle

/-- An evaluation has no entry in its log just if its first pass converges. -/
theorem runLog_eq_nil (limit : Nat) {es : List Element} (hd : Distinct es) :
    runLog engine hooks limit es = [] ↔ (pass engine hooks { elements := es }).converged = true := by
  obtain ⟨left, hleft⟩ : ∃ left, max limit 1 = left + 1 := ⟨max limit 1 - 1, by omega⟩
  have hfirst := (pass_accounts engine hooks (p := { elements := es }) hd).2
  rw [runLog, hleft, hfirst, List.isEmpty_iff]
  simp only [iterateLog, List.append_eq_nil_iff, and_iff_left_iff_imp]
  intro hnone
  rw [hfirst, hnone]
  rfl

/-- Converging in one pass is converging in the first. -/
theorem converged_first (limit : Nat) (es : List Element) :
    ((run engine hooks limit es).converged = true ∧ (run engine hooks limit es).passes = 1) ↔
      (pass engine hooks { elements := es }).converged = true := by
  constructor
  · rw [run_converged, run_passes]
    rintro ⟨hconverged, hpasses⟩
    obtain ⟨k, hk, hmore, -⟩ := exists_iterate_passes engine hooks rfl hconverged
    obtain rfl : 1 = k := hpasses.symm.trans (hk.trans (Nat.zero_add k))
    rw [← hmore 1 (Nat.le_refl 1), iterate_succ, iterate, ite_self] at hconverged
    exact hconverged
  · intro hfirst
    rw [run_of_first engine hooks hfirst]
    exact ⟨hfirst, rfl⟩

/-- **Nothing has changed** just if one pass was enough. -/
theorem run_changed_eq_nil (limit : Nat) {es : List Element} (hd : Distinct es) :
    (run engine hooks limit es).changed = [] ↔
      (run engine hooks limit es).converged = true ∧ (run engine hooks limit es).passes = 1 := by
  rw [(run_accounts engine hooks limit hd).noted, noted_eq_nil, runLog_eq_nil engine hooks limit hd,
    converged_first]

end

/-- What the log of an evaluation accounts for. -/
theorem evaluate_accounts (engine : Engine Program) (limit : Nat) (r : Registry Program) (s : Snapshot) :
    Accounts (log engine limit r s) s.elements [] (evaluate engine limit r s).snapshot.elements
      (evaluate engine limit r s).changed := by
  rw [evaluate_snapshot_eq engine limit r]
  exact run_accounts engine _ limit s.distinct

end Evaluation

end LiveForm

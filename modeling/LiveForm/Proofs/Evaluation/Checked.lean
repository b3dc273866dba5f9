import LiveForm.Proofs.Evaluation.FixedPoint

/-!
# Every place is in bounds

An evaluation finds elements, views and hooks by their place in three lists. Read in order, these lists
belong together: there are as many hooks and views as elements, at every moment of a pass, and a write goes
to a place at which an element has been found. Here the evaluation is done once more with every place
**checked**: it comes to nothing as soon as one is out of bounds, or if its outcome is no snapshot, where the
evaluation itself would go on with what it has. The two agree (`evaluate?_eq`), so this never happens, and
nothing that scripts do to their copies of the elements can bring it about.
-/

namespace LiveForm

variable {Program : Type}

/-! ## The checked evaluation -/

namespace Evaluation

/-- What is derived of the element at a place and of those after it. -/
def deriveFrom? (engine : Engine Program) (hooks : List (ResolvedHooks Program))
    (views : List Script.Value) (place : Nat) :
    List Element → Option (List Element × List Diagnostic)
  | [] => some ([], [])
  | e :: es => do
    let h ← hooks[place]?
    let own ← views[place]?
    let (d, ds) := deriveOne engine views own e h
    let (others, more) ← deriveFrom? engine hooks views (place + 1) es
    return (withDerived e d :: others, ds ++ more)

def derive? (engine : Engine Program) (hooks : List (ResolvedHooks Program)) (es : List Element) :
    Option (List Element × List Diagnostic) :=
  deriveFrom? engine hooks (Script.elementViews es) 0 es

/-- The write of one view in an array of views, as it is after a run. -/
def editWrite? (elements : List Element) (views : List Script.Value) (item : Script.Value) :
    Option (Option ValueWrite) :=
  match item.viewId?, item.viewValue? with
  | some id, some value =>
    match elements.findIdx? (·.id == id) with
    | some place => do
      let view ← views[place]?
      return if (view.viewValue?.getD .null).same value then none else some ⟨place, value⟩
    | none => some none
  | _, _ => some none

def editWrites? (elements : List Element) (views items : List Script.Value) :
    Option (List ValueWrite) :=
  (items.mapM (editWrite? elements views)).map (·.filterMap id)

/-- The writes of a run of the hook at a place. -/
def collectWrites? (elements : List Element) (views : List Script.Value) (own : Nat)
    (i : Invocation) : Option (Except ScriptError (List ValueWrite)) := do
  let e ← elements[own]?
  let edits ← match i.value? "elements" with
    | some (.array items) => editWrites? elements views items
    | _ => some []
  let owns := match i.value? "element" with
    | some view => ownWrites own e view
    | none => []
  return do
    let result ← i.json?
    return edits ++ owns ++ if result = .null then [] else [⟨own, result⟩]

end Evaluation

namespace Reaction

def write? (r : Reaction) (w : ValueWrite) : Option Reaction := do
  let e ← r.elements[w.place]?
  let _view ← r.views[w.place]?
  let value := e.clamp w.value
  return if e.value.same value then r
    else
      let written := { e with value }
      { r with
        elements := r.elements.set w.place written
        views := r.views.set w.place (Script.elementView written)
        changed := note r.changed e.id
        dirty := true }

def callAt? (engine : Engine Program) (place : Nat) (hook : Callable Program) (r : Reaction) :
    Option Reaction := do
  let e ← r.elements[place]?
  let view ← r.views[place]?
  let failed (error : ScriptError) : Reaction :=
    { r with diagnostics := r.diagnostics ++ [.hookFault e.id .onValueChanged error] }
  match engine.callHook hook r.views view with
  | .error error => return failed error
  | .ok none => return r
  | .ok (some i) =>
    match ← Evaluation.collectWrites? r.elements r.views place i with
    | .error error => return failed error
    | .ok writes => writes.foldlM write? r

/-- So many hooks from a place on, called one after the other. -/
def callFrom? (engine : Engine Program) (hooks : List (ResolvedHooks Program)) (place : Nat)
    (r : Reaction) : (left : Nat) → Option Reaction
  | 0 => some r
  | left + 1 => do
    let h ← hooks[place]?
    let next ← match h.onValueChanged with
      | some hook => r.callAt? engine place hook
      | none => some r
    next.callFrom? engine hooks (place + 1) left

end Reaction

namespace Evaluation

def react? (engine : Engine Program) (hooks : List (ResolvedHooks Program)) (es : List Element)
    (changed : List String) : Option Reaction :=
  (Reaction.start es changed).callFrom? engine hooks 0 es.length

def pass? (engine : Engine Program) (hooks : List (ResolvedHooks Program)) (p : Progress) :
    Option Progress := do
  let (derived, faults) ← derive? engine hooks p.elements
  let r ← react? engine hooks derived p.changed
  some
    { elements := r.elements
      changed := r.changed
      passes := p.passes + 1
      converged := !r.dirty
      faults := p.faults ++ faults ++ r.diagnostics }

def iterate? (engine : Engine Program) (hooks : List (ResolvedHooks Program)) :
    (left : Nat) → Progress → Option Progress
  | 0, p => some p
  | left + 1, p => do
    let next ← pass? engine hooks p
    if next.converged then return next else iterate? engine hooks left next

def settle? (engine : Engine Program) (hooks : List (ResolvedHooks Program)) (p : Progress) :
    Option Progress :=
  if p.converged then some p
  else do
    let (derived, faults) ← derive? engine hooks p.elements
    return { p with elements := derived, faults := p.faults ++ faults }

def run? (engine : Engine Program) (hooks : List (ResolvedHooks Program)) (limit : Nat)
    (elements : List Element) : Option Progress := do
  let p ← iterate? engine hooks (max limit 1) { elements }
  settle? engine hooks p

/-- **The evaluation of a snapshot, checked.** -/
def evaluate? (engine : Engine Program) (limit : Nat) (registry : Registry Program) (s : Snapshot) :
    Option (Evaluated Program) := do
  let (hooks, compileErrors, registry) := registry.resolveAll engine s.elements
  let p ← run? engine hooks limit s.elements
  let snapshot ← (Snapshot.ofElements? p.elements s.initial).toOption
  some
    { snapshot
      passes := p.passes
      converged := p.converged
      changed := p.changed
      faults := p.faults.length
      diagnostics := compileErrors ++ p.faults ++
        if p.converged then [] else [.convergenceExceeded (max limit 1)]
      registry }

/-! ## Deriving -/

theorem deriveFrom?_eq (engine : Engine Program) {hooks : List (ResolvedHooks Program)}
    {views : List Script.Value} {place : Nat} {es : List Element}
    (hhooks : (hooks.drop place).length = es.length)
    (hviews : views.drop place = Script.elementViews es) :
    deriveFrom? engine hooks views place es =
      some (deriveEach engine views es (hooks.drop place)) := by
  induction es generalizing place with
  | nil =>
    rw [List.length_nil, List.length_eq_zero_iff] at hhooks
    rw [hhooks]
    rfl
  | cons e es ih =>
    obtain ⟨h, rest, hrest⟩ := List.exists_cons_of_length_eq_add_one hhooks
    have hhook : hooks[place]? = some h := by
      rw [← List.head?_drop, hrest, List.head?_cons]
    have hview : views[place]? = some (Script.elementView e) := by
      rw [← List.head?_drop, hviews]
      rfl
    have hrest' : hooks.drop (place + 1) = rest := by
      rw [← List.tail_drop, hrest, List.tail_cons]
    have hviews' : views.drop (place + 1) = Script.elementViews es := by
      rw [← List.tail_drop, hviews]
      rfl
    have hlength : (hooks.drop (place + 1)).length = es.length := by
      rw [hrest']
      rw [hrest] at hhooks
      exact Nat.succ.inj hhooks
    simp only [deriveFrom?, hhook, hview, Option.bind_eq_bind, Option.bind_some, ih hlength hviews',
      hrest, hrest']
    rfl

theorem derive?_eq (engine : Engine Program) {hooks : List (ResolvedHooks Program)}
    {es : List Element} (hhooks : hooks.length = es.length) :
    derive? engine hooks es = some (derive engine hooks es) :=
  deriveFrom?_eq engine hhooks rfl

/-! ## Reacting -/

/-- Places that are found are there. -/
theorem getElem?_findIdx? {α β : Type} {as : List α} {bs : List β} {p : α → Bool} {place : Nat}
    (hlength : bs.length = as.length) (h : as.findIdx? p = some place) :
    ∃ b, bs[place]? = some b := by
  obtain ⟨hlt, -⟩ := List.findIdx?_eq_some_iff_getElem.1 h
  rw [← hlength] at hlt
  exact ⟨bs[place], List.getElem?_eq_getElem hlt⟩

theorem editWrites?_eq {elements : List Element} {views : List Script.Value}
    (hviews : views.length = elements.length) (items : List Script.Value) :
    editWrites? elements views items = some (editWrites elements views items) := by
  obtain ⟨f, hf, hitem⟩ : ∃ f, editWrites elements views items = items.filterMap f ∧
      editWrite? elements views = fun item => pure (f item) := by
    refine ⟨_, rfl, ?_⟩
    funext item
    rw [editWrite?]
    cases item.viewId? with
    | none => rfl
    | some id =>
      cases item.viewValue? with
      | none => rfl
      | some value =>
        cases hplace : elements.findIdx? (·.id == id) with
        | none => simp only [hplace, Option.bind_eq_bind, Option.bind_some, Option.bind_none]; rfl
        | some place =>
          obtain ⟨view, hview⟩ := getElem?_findIdx? hviews hplace
          simp only [hplace, hview, Option.bind_eq_bind, Option.bind_some]
  rw [editWrites?, hitem, List.mapM_pure, hf]
  exact congrArg some (List.filterMap_map ..)

theorem editWrites_place {elements : List Element} {views items : List Script.Value} :
    ∀ w ∈ editWrites elements views items, w.place < elements.length := by
  intro w hw
  obtain ⟨item, -, hitem⟩ := List.mem_filterMap.1 hw
  simp only [Option.bind_eq_bind, Option.bind_eq_some_iff] at hitem
  obtain ⟨id, -, value, -, place, hplace, hwrite⟩ := hitem
  rw [Option.ite_none_left_eq_some] at hwrite
  rw [← Option.some.inj hwrite.2]
  exact (List.findIdx?_eq_some_iff_getElem.1 hplace).1

theorem ownWrites_place {own : Nat} {e : Element} {view : Script.Value} :
    ∀ w ∈ ownWrites own e view, w.place = own := by
  intro w hw
  rw [ownWrites] at hw
  split at hw
  · split at hw
    · cases hw
    · rw [List.mem_singleton.1 hw]
  · cases hw

/-- Writes go to places that are there. -/
theorem collectWrites_place {elements : List Element} {views : List Script.Value} {own : Nat}
    (hown : own < elements.length) {i : Invocation} {writes : List ValueWrite}
    (h : collectWrites elements views own i = .ok writes) :
    ∀ w ∈ writes, w.place < elements.length := by
  cases hjson : i.json? with
  | error error =>
    rw [collectWrites_error elements views own hjson] at h
    cases h
  | ok result =>
    simp only [collectWrites, hjson] at h
    cases h
    intro w hw
    rcases List.mem_append.1 hw with hw | hw
    · rcases List.mem_append.1 hw with hw | hw
      · split at hw
        · exact editWrites_place w hw
        · cases hw
      · split at hw
        · rw [ownWrites_place w hw]
          exact hown
        · cases hw
    · split at hw
      · cases hw
      · rw [List.mem_singleton.1 hw]
        exact hown

theorem collectWrites?_eq {elements : List Element} {views : List Script.Value}
    (hviews : views.length = elements.length) {own : Nat} (hown : own < elements.length)
    (i : Invocation) :
    collectWrites? elements views own i = some (collectWrites elements views own i) := by
  have he : elements[own]? = some elements[own] := List.getElem?_eq_getElem hown
  simp only [collectWrites?, collectWrites, he, Option.bind_eq_bind, Option.bind_some]
  cases i.value? "elements" with
  | none => cases i.value? "element" <;> rfl
  | some v =>
    cases v with
    | array items =>
      simp only [editWrites?_eq hviews items, Option.bind_some]
      cases i.value? "element" <;> rfl
    | _ => cases i.value? "element" <;> rfl

end Evaluation

namespace Reaction

theorem write?_eq {r : Reaction} (hviews : r.views.length = r.elements.length) {w : ValueWrite}
    (hw : w.place < r.elements.length) : r.write? w = some (r.write w) := by
  obtain ⟨e, he⟩ : ∃ e, r.elements[w.place]? = some e := ⟨_, List.getElem?_eq_getElem hw⟩
  obtain ⟨view, hview⟩ : ∃ view, r.views[w.place]? = some view :=
    ⟨_, List.getElem?_eq_getElem (hviews ▸ hw)⟩
  simp only [write?, write, he, hview, Option.bind_eq_bind, Option.bind_some]
  rfl

theorem writes?_eq (writes : List ValueWrite) {es : List Element} {r : Reaction} (ht : r.Tracks es)
    (h : ∀ w ∈ writes, w.place < es.length) : writes.foldlM write? r = some (writes.foldl write r) := by
  induction writes generalizing r with
  | nil => rfl
  | cons w ws ih =>
    rw [List.foldlM_cons, write?_eq ht.length_views (by rw [ht.length]; exact h w List.mem_cons_self)]
    exact ih (ht.write w) fun w' hw' => h w' (List.mem_cons_of_mem _ hw')

theorem callAt?_eq (engine : Engine Program) {es : List Element} {r : Reaction} (ht : r.Tracks es)
    {place : Nat} (hplace : place < es.length) (hook : Callable Program) :
    r.callAt? engine place hook = some (r.callAt engine place hook) := by
  have hlt : place < r.elements.length := by rw [ht.length]; exact hplace
  have hltViews : place < r.views.length := by rw [ht.length_views]; exact hlt
  have he : r.elements[place]? = some r.elements[place] := List.getElem?_eq_getElem hlt
  have hview : r.views[place]? = some r.views[place] := List.getElem?_eq_getElem hltViews
  simp only [callAt?, callAt, he, hview, Option.bind_eq_bind, Option.bind_some]
  cases engine.callHook hook r.views r.views[place] with
  | error error => rfl
  | ok answer =>
    cases answer with
    | none => rfl
    | some i =>
      simp only [Evaluation.collectWrites?_eq ht.length_views hlt i, Option.bind_some]
      cases hwrites : Evaluation.collectWrites r.elements r.views place i with
      | error error => rfl
      | ok writes =>
        have hplaces := Evaluation.collectWrites_place hlt hwrites
        rw [ht.length] at hplaces
        exact writes?_eq writes ht hplaces

theorem callFrom?_eq (engine : Engine Program) {hooks : List (ResolvedHooks Program)}
    {es : List Element} (hhooks : hooks.length = es.length) {left place : Nat}
    (hplace : place + left = es.length) {r : Reaction} (ht : r.Tracks es) :
    r.callFrom? engine hooks place left = some (r.callFrom engine place (hooks.drop place)) := by
  induction left generalizing place r with
  | zero =>
    rw [List.drop_of_length_le (by omega)]
    rfl
  | succ left ih =>
    have hlt : place < hooks.length := by omega
    rw [List.drop_eq_getElem_cons hlt]
    simp only [callFrom?, callFrom, List.getElem?_eq_getElem hlt, Option.bind_eq_bind, Option.bind_some]
    cases hooks[place].onValueChanged with
    | none => exact ih (by omega) ht
    | some hook =>
      have hlt' : place < es.length := by omega
      simp only [callAt?_eq engine ht hlt' hook]
      exact ih (by omega) (ht.callAt engine place hook)

end Reaction

/-! ## Passes -/

namespace Evaluation

variable (engine : Engine Program) {hooks : List (ResolvedHooks Program)}

theorem react?_eq {es : List Element} (hhooks : hooks.length = es.length) (changed : List String) :
    react? engine hooks es changed = some (react engine hooks es changed) :=
  Reaction.callFrom?_eq engine hhooks (Nat.zero_add _) (Reaction.Tracks.start es changed)

theorem pass?_eq {p : Progress} (hhooks : hooks.length = p.elements.length) :
    pass? engine hooks p = some (pass engine hooks p) := by
  have hderived : hooks.length = (derive engine hooks p.elements).1.length := by
    rw [length_eq_of_frame (derive_frame engine hooks p.elements), hhooks]
  simp only [pass?, derive?_eq engine hhooks, Option.bind_eq_bind, Option.bind_some,
    react?_eq engine hderived]
  rfl

theorem iterate?_eq (left : Nat) {p : Progress} (hhooks : hooks.length = p.elements.length) :
    iterate? engine hooks left p = some (iterate engine hooks left p) := by
  induction left generalizing p with
  | zero => rfl
  | succ left ih =>
    have hnext : hooks.length = (pass engine hooks p).elements.length := by
      rw [length_eq_of_frame (pass_frame engine hooks p), hhooks]
    simp only [iterate?, iterate, pass?_eq engine hhooks, Option.bind_eq_bind, Option.bind_some,
      ih hnext]
    split <;> rfl

theorem settle?_eq {p : Progress} (hhooks : hooks.length = p.elements.length) :
    settle? engine hooks p = some (settle engine hooks p) := by
  rw [settle?, settle]
  split
  · rfl
  · simp only [derive?_eq engine hhooks, Option.bind_eq_bind, Option.bind_some]
    rfl

theorem run?_eq (limit : Nat) {es : List Element} (hhooks : hooks.length = es.length) :
    run? engine hooks limit es = some (run engine hooks limit es) := by
  have hiterate := iterate?_eq engine (max limit 1) (p := { elements := es }) hhooks
  have hlength : hooks.length =
      (iterate engine hooks (max limit 1) { elements := es }).elements.length := by
    rw [length_eq_of_frame (iterate_frame engine hooks (max limit 1) { elements := es }), hhooks]
  rw [run?, hiterate]
  exact settle?_eq engine hlength

/-- There are hooks for every element. -/
theorem resolveAll_length (r : Registry Program) (es : List Element) :
    (r.resolveAll engine es).1.length = es.length := by
  induction es generalizing r with
  | nil => rfl
  | cons e es ih => exact congrArg (· + 1) (ih _)

/-- **Every place is in bounds**, and what an evaluation leaves is a snapshot again. -/
theorem evaluate?_eq (limit : Nat) (r : Registry Program) (s : Snapshot) :
    evaluate? engine limit r s = some (evaluate engine limit r s) := by
  have hrun := run?_eq engine limit (resolveAll_length engine r s.elements)
  have hafter := s.distinct.of_frame (run_frame engine (r.resolveAll engine s.elements).1 limit s.elements)
  have hsnapshot := Snapshot.ofElements?_of_distinct hafter s.initial
  simp only [evaluate?, evaluate, hrun, hsnapshot, Except.toOption, Option.bind_eq_bind,
    Option.bind_some, Option.getD_some]

end Evaluation

end LiveForm

/-!
# Sorting by a question

Items are sorted by asking whether one of them is less than another. The question may have effects, and its
answers need not make up an order; so which pairs are asked about, and when, is part of what sorting means.
Up to twenty items each item is compared with the sorted ones before it, from the last one back. Longer
lists are cut into such stretches, which are then merged in pairs.
-/

namespace LiveForm.Script.Sorting

variable {α : Type} {m : Type → Type} [Monad m]

/-- The sorted items, the last one first, with one more among them, behind those it is not less than. -/
def place (less : α → α → m Bool) (item : α) : List α → m (List α)
  | [] => return [item]
  | last :: rest => do
    if ← less item last then return last :: (← place less item rest) else return item :: last :: rest

/-- The items of a short list put in their places one by one. -/
def placeAll (less : α → α → m Bool) (placed : List α) : List α → m (List α)
  | [] => return placed.reverse
  | item :: rest => do placeAll less (← place less item placed) rest

/-- Two sorted lists as one; of equal items those of the first come first. -/
def merge (less : α → α → m Bool) (merged : List α) : List α → List α → m (List α)
  | [], bs => return merged.reverse ++ bs
  | as, [] => return merged.reverse ++ as
  | a :: as, b :: bs => do
    if ← less b a then merge less (b :: merged) (a :: as) bs else merge less (a :: merged) as (b :: bs)
termination_by as bs => as.length + bs.length

/-- Neighbours among sorted lists merged. -/
def mergePairs (less : α → α → m Bool) : List (List α) → m (List (List α))
  | as :: bs :: rest => do return (← merge less [] as bs) :: (← mergePairs less rest)
  | lists => return lists

/-- Sorted lists merged into one. Every round halves their number. -/
def mergeAll (less : α → α → m Bool) : (rounds : Nat) → List (List α) → m (List α)
  | _, [] => return []
  | _, [items] => return items
  | 0, lists => return lists.flatten
  | rounds + 1, lists => do mergeAll less rounds (← mergePairs less lists)

/-- The length up to which a list is short. -/
def short : Nat := 20

/-- The short stretches of a list. -/
def stretches (items : List α) : List (List α) :=
  if _h : items.length ≤ short then [items]
  else items.take short :: stretches (items.drop short)
termination_by items.length
decreasing_by
  simp only [List.length_drop, short] at *
  omega

/-- The items in increasing order; equal ones stay in the order they have. -/
def sort (less : α → α → m Bool) (items : List α) : m (List α) := do
  mergeAll less items.length (← (stretches items).mapM (placeAll less []))

end LiveForm.Script.Sorting

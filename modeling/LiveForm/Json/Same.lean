import LiveForm.Json

/-!
# Sameness and truth of JSON values

Change detection of values asks one question: are two values the same? `Json.same` answers it up to
the spelling of numbers, so that `3` and `3.0` are the same value and an edit from one to the other is
no change. Numbers are compared through the nearest float. `Json.alike` is the stricter question that
is asked of option lists and of whole snapshots: there `3` and `3.0` differ, but the two zeros of floats
do not. Both are one comparison that is given its notion of equal numbers. `Json.truthy` is the reading
of a value as a condition.
-/

namespace LiveForm

namespace Number

/-- Two numbers are the same when their nearest floats are equal. -/
def same (a b : Number) : Bool := a.toFloat == b.toFloat

/-- Two numbers are alike when they are the same integer or equal floats. -/
def alike : Number → Number → Bool
  | .int a _, .int b _ => a == b
  | .real a _, .real b _ => a == b
  | _, _ => false

/-- Every number but zero counts as true. -/
def truthy (n : Number) : Bool := n.toFloat != 0.0 && !n.toFloat.isNaN

end Number

namespace Json

mutual

/-- Equality with the numbers compared as `eq` says. Objects are sorted, so their members agree in
order. -/
def sameBy (eq : Number → Number → Bool) : Json → Json → Bool
  | .null, .null => true
  | .bool a, .bool b => a == b
  | .num a, .num b => eq a b
  | .str a, .str b => a == b
  | .arr as, .arr bs => sameItems eq as bs
  | .obj as, .obj bs => sameMembers eq as bs
  | _, _ => false

def sameItems (eq : Number → Number → Bool) : List Json → List Json → Bool
  | [], [] => true
  | a :: as, b :: bs => sameBy eq a b && sameItems eq as bs
  | _, _ => false

def sameMembers (eq : Number → Number → Bool) :
    List (String × Json) → List (String × Json) → Bool
  | [], [] => true
  | (k, a) :: as, (l, b) :: bs => k == l && sameBy eq a b && sameMembers eq as bs
  | _, _ => false

end

/-- Equality up to the spelling of numbers. -/
def same (a b : Json) : Bool := sameBy Number.same a b

/-- Equality of values whose integers stay apart from floats. -/
def alike (a b : Json) : Bool := sameBy Number.alike a b

/-- A value read as a condition: `null`, `false`, zero, and what is empty are false. -/
def truthy : Json → Bool
  | .null => false
  | .bool b => b
  | .num n => n.truthy
  | .str s => !s.isEmpty
  | .arr items => !items.isEmpty
  | .obj members => !members.isEmpty

end Json

end LiveForm

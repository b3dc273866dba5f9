import LiveForm.Script.Arithmetic
import LiveForm.Script.Moment
import LiveForm.Script.Operator
import LiveForm.Text.Search

/-!
# What operators compute

Numbers of both kinds mix, the integer becoming a float. A text takes anything that is added to it on
either side. Values of different kinds are never equal, and no comparison between them holds. What is left
has no operator, and the fault says so in the words of a call (`noFunction`).

An operator works directly on simple values (`Operator.direct?`); on others it is a call of a builtin
function (`Operator.called?`), which is a step of its own. The same holds of operators that are combined
with an assignment (`Operator.directInto?`, `Operator.calledInto?`).
-/

namespace LiveForm.Script

/-- The kinds of the arguments of a call, as faults list them. -/
def signature (name : String) (args : List Value) : String :=
  name ++ " (" ++ ", ".intercalate (args.map fun v => v.kind.signature) ++ ")"

/-- The fault of a call that no function fits. -/
def noFunction (name : String) (args : List Value) : Cause := .functionNotFound (signature name args)

namespace Operator

/-- Which comparison holds for values in this order. -/
def holds (op : Operator) : Ordering → Bool
  | .lt => op == .less || op == .atMost || op == .different
  | .eq => op == .equal || op == .atMost || op == .atLeast
  | .gt => op == .greater || op == .atLeast || op == .different

/-- The distance within which two floats count as equal. -/
def closeness : Float := 2.220446049250313e-16

/-- A comparison of floats. Nothing holds for what is no number. -/
def compareFloats (op : Operator) (x y : Float) : Bool :=
  match op with
  | .equal => (x - y).abs ≤ closeness
  | .different => (x - y).abs > closeness
  | .less => x < y
  | .atMost => x ≤ y
  | .greater => y < x
  | _ => y ≤ x

/-- An operation on two integers, if there is one. -/
def onInts? (op : Operator) (a b : Int64) : Option (Except Cause Value) :=
  match op with
  | .plus => some (.int <$> Arithmetic.add a b)
  | .minus => some (.int <$> Arithmetic.subtract a b)
  | .times => some (.int <$> Arithmetic.multiply a b)
  | .over => some (.int <$> Arithmetic.divide a b)
  | .modulo => some (.int <$> Arithmetic.remainder a b)
  | .power => some (.int <$> Arithmetic.power a b)
  | .shiftLeft => some (.ok (.int (Arithmetic.shiftLeft a b.toInt)))
  | .shiftRight => some (.ok (.int (Arithmetic.shiftRight a b.toInt)))
  | .bitAnd => some (.ok (.int (a &&& b)))
  | .bitOr => some (.ok (.int (a ||| b)))
  | .bitXor => some (.ok (.int (a ^^^ b)))
  | .span => some (.ok (.range a b false))
  | .closedSpan => some (.ok (.range a b true))
  | .holding => none
  | op => some (.ok (.bool (op.holds (compare a.toInt b.toInt))))

/-- An operation on two floats, if there is one. -/
def onFloats? (op : Operator) (x y : Float) : Option Value :=
  match op with
  | .plus => some (.float (x + y))
  | .minus => some (.float (x - y))
  | .times => some (.float (x * y))
  | .over => some (.float (x / y))
  | .modulo => some (.float (Arithmetic.floatRemainder x y))
  | .power => some (.float (x.pow y))
  | op => if op.compares then some (.bool (op.compareFloats x y)) else none

/-- An operation on two texts, if there is one. Subtraction takes out every occurrence. -/
def onTexts? (op : Operator) (s t : String) : Option Value :=
  match op with
  | .plus => some (.text (s ++ t))
  | .minus =>
    if t.isEmpty then some (.text s)
    else some (.text (String.ofList (Text.replaceAll t.toList [] s.toList)))
  | op => if op.compares then some (.bool (op.holds (compare s t))) else none

def onBools? (op : Operator) (a b : Bool) : Option Value :=
  match op with
  | .bitAnd => some (.bool (a && b))
  | .bitOr => some (.bool (a || b))
  | .bitXor => some (.bool (a != b))
  | op => if op.compares then some (.bool (op.holds (compare a.toNat b.toNat))) else none

/-- The operations on values that are computed at once. -/
def direct? (op : Operator) : Value → Value → Option (Except Cause Value)
  | .int a, .int b => op.onInts? a b
  | .float x, .float y => (op.onFloats? x y).map .ok
  | .int a, .float y => (op.onFloats? a.toFloat y).map .ok
  | .float x, .int b => (op.onFloats? x b.toFloat).map .ok
  | .bool a, .bool b => (op.onBools? a b).map .ok
  | .text s, .text t => (op.onTexts? s t).map .ok
  | .char c, .char d =>
    if op == .plus then some (.ok (.text (String.ofList [c, d])))
    else if op.compares then some (.ok (.bool (op.holds (compare c.toNat d.toNat))))
    else none
  | .char c, .text t => if op == .minus then none else (op.onTexts? c.toString t).map .ok
  | .text s, .char d => (op.onTexts? s d.toString).map .ok
  | .unit, .unit => if op.compares then some (.ok (.bool (op == .equal))) else none
  | .unit, .text t => besideUnit? op t
  | .text s, .unit => besideUnit? op s
  | .blob as, .blob bs =>
    match op with
    | .plus => some (.ok (.blob (as ++ bs)))
    | .equal => some (.ok (.bool (as == bs)))
    | .different => some (.ok (.bool (as != bs)))
    | _ => none
  | a, b =>
    if op.compares && a.kind != b.kind && !a.kind.isForeign && !b.kind.isForeign then
      some (.ok (.bool (op == .different)))
    else none
where
  besideUnit? (op : Operator) (s : String) : Option (Except Cause Value) :=
    if op == .plus then some (.ok (.text s))
    else if op.compares then some (.ok (.bool (op == .different)))
    else none

/-- Whether an order is asked of two truth values. A running script answers no to it, while for two
literals there is an answer. -/
def ordersFlags (op : Operator) : Value → Value → Bool
  | .bool _, .bool _ => op.compares && op != .equal && op != .different
  | _, _ => false

mutual

/-- Whether two values are equal as far as they can be compared. -/
def sameValue (a b : Value) : Except Cause Bool :=
  match a, b with
  | .array as, .array bs => if as.length = bs.length then sameItems as bs else .ok false
  | .map as, .map bs => if as.length = bs.length then sameMemberValues as bs else .ok false
  | .range a b false, .range c d false => .ok (a == c && b == d)
  | .range a b true, .range c d true => .ok (a == c && b == d)
  | .moment t, .moment u => .ok (t == u)
  | .byte a, .byte b => .ok (a == b)
  | a, b =>
    match direct? .equal a b with
    | some (.ok (.bool r)) => .ok r
    | some (.error e) => .error e
    | _ => .error (noFunction "==" [a, b])

/-- Whether two arrays of one length have equal items. Items of different kinds differ. -/
def sameItems : List Value → List Value → Except Cause Bool
  | a :: as, b :: bs =>
    match sameValue a b with
    | .ok true => sameItems as bs
    | .ok false => .ok false
    | .error e =>
      match e with
      | .functionNotFound _ => if a.kind = b.kind then .error e else .ok false
      | e => .error e
  | _, _ => .ok true

def sameMemberValues : List (String × Value) → List (String × Value) → Except Cause Bool
  | (k, a) :: as, (l, b) :: bs => do
    if k = l then
      if ← sameValue a b then sameMemberValues as bs else return false
    else return false
  | _, _ => .ok true

end

/-- Whether an item equals a value; items of other kinds never do. -/
def sameItem (item v : Value) : Except Cause Bool := sameItems [item] [v]

mutual

/-- How many calls inside of each other a comparison makes. -/
def comparisonDepth : Value → Value → Nat
  | .array as, .array bs => if as.length = bs.length then itemsDepth as bs else 0
  | .map as, .map bs => if as.length = bs.length then membersDepth as bs else 0
  | _, _ => 0

def itemsDepth : List Value → List Value → Nat
  | a :: as, b :: bs =>
    max (comparisonDepth a b + 1) (match sameValue a b with
      | .ok true => itemsDepth as bs
      | _ => 0)
  | _, _ => 0

def membersDepth : List (String × Value) → List (String × Value) → Nat
  | (k, a) :: as, (l, b) :: bs =>
    if k = l then
      max (comparisonDepth a b + 1) (match sameValue a b with
        | .ok true => membersDepth as bs
        | _ => 0)
    else 0
  | _, _ => 0

end

/-- The kinds that are compared part by part. -/
def isCompound : Value → Value → Bool
  | .array _, .array _ | .map _, .map _ => true
  | .range _ _ c, .range _ _ d => c == d
  | _, _ => false

/-- An operation on a moment, if there is one. -/
def onMoment? (op : Operator) (t : Int) : Value → Option (Except Cause Value)
  | .moment u =>
    if op.compares then some (.ok (.bool (op.holds (compare t u))))
    else if op == .minus then some (.ok (.float (Moment.secondsUntil t u)))
    else none
  | .int n => (direction? op).map fun d => Moment.shift d t n
  | .float x => (direction? op).map fun d => Moment.shiftByFloat d t x
  | _ => none
where
  direction? : Operator → Option Moment.Direction
    | .plus => some .later
    | .minus => some .earlier
    | _ => none

/-- An operation on two bytes, if there is one. -/
def onBytes? (op : Operator) (a b : UInt8) : Option (Except Cause Value) :=
  match op with
  | .plus => some (Arithmetic.addBytes a b)
  | .minus => some (Arithmetic.subtractBytes a b)
  | .times => some (Arithmetic.multiplyBytes a b)
  | .over => some (Arithmetic.divideBytes a b)
  | .modulo => some (Arithmetic.byteRemainder a b)
  | .bitAnd => some (.ok (.byte (a &&& b)))
  | .bitOr => some (.ok (.byte (a ||| b)))
  | .bitXor => some (.ok (.byte (a ^^^ b)))
  | op => if op.compares then some (.ok (.bool (op.holds (compare a.toNat b.toNat)))) else none

/-- An operation on a byte and an integer, if there is one. -/
def onByteAndInt? (op : Operator) (a : UInt8) (b : Int64) : Option (Except Cause Value) :=
  match op with
  | .power => some (Arithmetic.bytePower a b)
  | .shiftLeft => some (.ok (.byte (Arithmetic.shiftByte a b.toInt)))
  | .shiftRight => some (.ok (.byte (Arithmetic.shiftByte a (-b.toInt))))
  | _ => none

/-- The operations that are calls of builtin functions. -/
def called? (op : Operator) (a b : Value) : Option (Except Cause Value) :=
  match op, a, b with
  | .plus, .text s, v => some (.ok (.text (s ++ v.appended)))
  | .plus, v, .text s => some (.ok (.text (v.appended ++ s)))
  | .plus, .array as, .array bs => some (.ok (.array (as ++ bs)))
  | .plus, .map as, .map bs =>
    some (.ok (.map (bs.foldl (fun sum (k, v) => Value.insertMember k v sum) as)))
  | op, .moment t, b => op.onMoment? t b
  | op, .byte a, .byte b => op.onBytes? a b
  | op, .byte a, .int b => op.onByteAndInt? a b
  | op, a, b =>
    if isCompound a b && (op == .equal || op == .different) then
      some do
        let same ← sameValue a b
        return .bool (same == (op == .equal))
    else none

/-- What an operator computes, in whatever way. -/
def apply (op : Operator) (a b : Value) : Except Cause Value :=
  match op.direct? a b with
  | some r => r
  | none => (op.called? a b).getD (.error (noFunction op.sign [a, b]))

/-- The value of an operator with assignment that is computed at once: an array takes what is added to it
as one item, unless it is an array itself. -/
def directInto? (op : Operator) (a b : Value) : Option (Except Cause Value) :=
  if !op.mayAssign then none
  else
    match a, b with
    | .int _, .int _ | .float _, .float _ | .float _, .int _ | .char _, .char _ | .char _, .text _
    | .text _, .text _ | .text _, .char _ => op.direct? a b
    | .bool _, .bool _ => if op == .bitXor then none else op.direct? a b
    | .array as, .array bs => if op == .plus then some (.ok (.array (as ++ bs))) else none
    | .array as, v => if op == .plus then some (.ok (.array (as ++ [v]))) else none
    | .blob as, .blob bs => if op == .plus then some (.ok (.blob (as ++ bs))) else none
    | .blob as, .int n =>
      if op == .plus then some (.ok (.blob (as ++ [UInt8.ofNat (Arithmetic.bitsOf n % 256)]))) else none
    | .blob as, .char c =>
      if op == .plus then some (.ok (.blob (as ++ c.toString.toUTF8.toList))) else none
    | .blob as, .text s => if op == .plus then some (.ok (.blob (as ++ s.toUTF8.toList))) else none
    | _, _ => none

/-- The value of an operator with assignment that has a builtin function of its own. -/
def calledInto? (op : Operator) (a b : Value) : Option Value :=
  match op, a, b with
  | .plus, .text s, v => some (.text (s ++ v.appended))
  | .plus, .map as, .map bs => some (.map (bs.foldl (fun sum (k, v) => Value.insertMember k v sum) as))
  | _, _, _ => none

/-- What an operator on one value computes. -/
def Unary.apply (op : Unary) (v : Value) : Except Cause Value :=
  match op, v with
  | .not, .bool b => .ok (.bool !b)
  | .minus, .int n => .int <$> Arithmetic.fit "integer overflow" (-n.toInt)
  | .minus, .float x => .ok (.float (-x))
  | .plus, .int n => .ok (.int n)
  | .plus, .float x => .ok (.float x)
  | op, v => .error (noFunction op.sign [v])

end Operator

end LiveForm.Script

import LiveForm.Script.Fault

/-!
# Moments

A script runs in no time: every moment it takes is the same one, and a `Value.moment` counts nanoseconds from
there. Other moments are reached by adding and taking away seconds. An integer gives whole seconds, a float is
cut to milliseconds.
-/

namespace LiveForm.Script.Moment

/-- The seconds from one moment to another, negative if the other is earlier. -/
def secondsUntil (stop start : Int) : Float :=
  let distance := (stop - start).natAbs
  let seconds := Float.ofNat (distance / 10 ^ 9) + Float.ofNat (distance % 10 ^ 9) / 1e9
  if stop < start then -seconds else seconds

/-- The seconds that have passed since a moment. -/
def elapsed (moment : Int) : Except Cause Value :=
  if 0 < moment then .error (.arithmetic "Time-stamp is later than now")
  else .ok (.float (secondsUntil 0 moment))

/-- How moments are left: towards later ones or towards earlier ones. -/
inductive Direction where
  | later
  | earlier
  deriving DecidableEq, Repr

def Direction.opposite : Direction → Direction
  | .later => .earlier
  | .earlier => .later

/-- The words for a move in messages. -/
def Direction.verb : Direction → String
  | .later => "add"
  | .earlier => "subtract"

/-- The moment a distance away. The seconds of a moment fit a word. -/
def moved (direction : Direction) (shown : String) (moment nanoseconds : Int) : Except Cause Value :=
  let there := if direction = .later then moment + nanoseconds else moment - nanoseconds
  if there.natAbs / 10 ^ 9 < 2 ^ 63 - 1 then .ok (.moment there)
  else
    .error (.arithmetic ("Timestamp overflow when " ++ direction.verb ++ "ing " ++ shown ++ " second(s)"))

/-- The moment so many seconds away. -/
def shift (direction : Direction) (moment : Int) (seconds : Int64) : Except Cause Value :=
  let away := if seconds < 0 then direction.opposite else direction
  let n := seconds.toInt.natAbs
  moved away (toString n) moment (n * 10 ^ 9)

/-- The moment so many seconds away, which may have a fraction. -/
def shiftByFloat (direction : Direction) (moment : Int) (seconds : Float) : Except Cause Value :=
  let away := if seconds < 0.0 then direction.opposite else direction
  let distance := if seconds < 0.0 then -seconds else seconds
  if distance > 9223372036854775807.0 then
    .error (.arithmetic ("Integer overflow for timestamp " ++ away.verb ++ ": " ++ displayFloat distance))
  else
    let milliseconds := (distance * 1000.0).toUInt64.toNat
    moved away (displayFloat distance) moment (milliseconds * 10 ^ 6)

end LiveForm.Script.Moment

/-!
# The words of a command line

How words are understood as options, whatever the program. A command knows options by a long name after
two dashes and possibly a letter after one; it may have further commands under it, whose name ends its
own options. The value of an option is the next word or what stands after an equals sign.

A value is looked at when the next option comes or the words end (`Level.settle`): so a word that fits
nowhere is reported before a bad value in front of it.
-/

namespace LiveForm.Command

/-- What an option does. -/
inductive OptionKind where
  /-- It is counted how often the option is there. -/
  | counted
  /-- The option has one value, of which not all texts need be valid. -/
  | single (valid : String → Bool)
  | repeated
  | help
  | version

structure OptionRule where
  name : String
  letter : Option Char := none
  kind : OptionKind

/-- A command: its options, those of them that must be there, and the commands under it. -/
structure CommandRule where
  options : List OptionRule
  required : List String := []
  commands : List String := []

/-- Why words are not accepted, or what is shown in place of running. -/
inductive UsageError where
  | unknownArgument
  | invalidCommand
  | missingCommand
  | missingRequired
  /-- An option that takes a value has none. -/
  | missingValue
  /-- The value of an option is not valid. -/
  | invalidValue
  /-- An option that has one value is there twice. -/
  | repeatedOption
  /-- An option without a value has one. -/
  | unexpectedValue
  | help
  /-- Help for a line without any word. -/
  | helpForNothing
  | version
  deriving DecidableEq, Repr

/-- What the words of one command have said so far. -/
structure Level where
  values : List (String × String) := []
  /-- How often the options that are counted were there. -/
  counts : List (String × Nat) := []
  /-- An option that is not settled, with its value if it has come. -/
  pending : Option (String × Option String) := none

namespace CommandRule

def ofName? (r : CommandRule) (name : String) : Option OptionRule :=
  r.options.find? (·.name == name)

def ofLetter? (r : CommandRule) (letter : Char) : Option OptionRule :=
  r.options.find? (·.letter == some letter)

end CommandRule

namespace Level

/-- Whether the option before the next word has no value yet. -/
def isWaiting (l : Level) : Bool := l.pending.any (·.2.isNone)

/-- The values of an option, the first one first. -/
def valuesOf (l : Level) (name : String) : List String :=
  (l.values.filter (·.1 == name)).map (·.2)

def value? (l : Level) (name : String) : Option String := (l.valuesOf name).head?

def has (l : Level) (name : String) : Bool :=
  l.values.any (·.1 == name) || l.counts.any (·.1 == name)

/-- A value given to an option. -/
def record (l : Level) (rule : OptionRule) (v : String) : Except UsageError Level :=
  match rule.kind with
  | .single valid =>
    if l.has rule.name then .error .repeatedOption
    else if valid v then .ok { l with values := l.values ++ [(rule.name, v)] }
    else .error .invalidValue
  | _ => .ok { l with values := l.values ++ [(rule.name, v)] }

/-- The pending option settled. -/
def settle (r : CommandRule) (l : Level) : Except UsageError Level :=
  match l.pending with
  | none => .ok l
  | some (_, none) => .error .missingValue
  | some (name, some v) =>
    match r.ofName? name with
    | some rule => { l with pending := none }.record rule v
    | none => .error .unknownArgument

/-- The greatest count of an option. -/
def greatestCount : Nat := 255

/-- One more option of a kind that is counted. -/
def increment (l : Level) (name : String) : Level :=
  let n := (l.counts.lookup name).getD 0
  { l with counts := (name, min greatestCount (n + 1)) :: l.counts.filter (·.1 != name) }

/-- An option that stands without a value. -/
def flag (r : CommandRule) (rule : OptionRule) (l : Level) : Except UsageError Level := do
  let l ← l.settle r
  match rule.kind with
  | .help => .error .help
  | .version => .error .version
  | .counted => .ok (l.increment rule.name)
  | .single _ | .repeated => .ok { l with pending := some (rule.name, none) }

/-- An option with what stands after the equals sign. -/
def attached (r : CommandRule) (rule : OptionRule) (v : String) (l : Level) :
    Except UsageError Level := do
  match rule.kind with
  | .single _ | .repeated => (← l.settle r).record rule v
  | _ => .error .unexpectedValue

/-- The letters after one dash. What follows a letter whose option takes a value is the value. -/
def letters (r : CommandRule) (l : Level) : List Char → Except UsageError Level
  | [] => .ok l
  | c :: rest =>
    match r.ofLetter? c with
    | none => .error .unknownArgument
    | some rule =>
      match rule.kind with
      | .single _ | .repeated =>
        match rest with
        | [] => l.flag r rule
        | '=' :: value => l.attached r rule (String.ofList value)
        | value => l.attached r rule (String.ofList value)
      | _ => do letters r (← l.flag r rule) rest

/-- A word that starts with two dashes. -/
def long (r : CommandRule) (l : Level) (cs : List Char) : Except UsageError Level :=
  let (name, value) := cs.span (· != '=')
  match r.ofName? (String.ofList name) with
  | none => .error .unknownArgument
  | some rule =>
    match value with
    | [] => l.flag r rule
    | _ :: value => l.attached r rule (String.ofList value)

/-- The error of a word that is neither an option nor a value. -/
def stray (r : CommandRule) (afterDashes : Bool) (word : String) : UsageError :=
  if r.commands.isEmpty || (afterDashes && r.commands.contains word) then .unknownArgument
  else .invalidCommand

/-- The words of a command up to the name of one under it, which is given with the words after it. Two
dashes alone mean that no option follows. -/
def read (r : CommandRule) (l : Level) : List String →
    Except UsageError (Level × Option (String × List String))
  | [] => .ok (l, none)
  | word :: rest =>
    if !l.isWaiting && r.commands.contains word then .ok (l, some (word, rest))
    else
      match word.toList with
      | ['-', '-'] =>
        match rest with
        | [] => .ok (l, none)
        | word :: _ => .error (stray r true word)
      | '-' :: '-' :: cs => do read r (← l.long r cs) rest
      | '-' :: c :: cs => do read r (← l.letters r (c :: cs)) rest
      | _ =>
        match l.pending with
        | some (name, none) => read r { l with pending := some (name, some word) } rest
        | _ => .error (stray r false word)

/-- The end of a command: what is pending is settled, and nothing that is required is missing. -/
def finish (r : CommandRule) (l : Level) : Except UsageError Level := do
  let l ← l.settle r
  if r.required.all l.has then .ok l else .error .missingRequired

end Level

end LiveForm.Command

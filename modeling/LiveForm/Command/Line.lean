import LiveForm.Command.Words
import LiveForm.Power

/-!
# The command line

The program evaluates a form, checks that its scripts compile, or runs the action of a button. Some
options belong to all three and may stand before the command or after it; where both are there the one
after it counts.
-/

namespace LiveForm

/-- What the program is asked to do. -/
inductive Shell.Command where
  | evaluate (form : String) (sets : List String) (format : String)
  | check (form : String)
  | action (form button : String) (sets vars : List String) (format : String)
  deriving DecidableEq, Repr

/-- The path of the form that a command is about. -/
def Shell.Command.form : Shell.Command → String
  | .evaluate form _ _ => form
  | .check form => form
  | .action form _ _ _ _ => form

namespace Command

-- Programs that use the library also know the type by this name.
set_option linter.all false in
export Shell (Command)

/-- A command line that was understood. -/
structure CommandLine where
  command : Command
  verbosity : Nat := 0
  config : Option String := none
  maxIterations : Option Nat := none
  diagnosticsLog : Option String := none
  deriving DecidableEq, Repr

namespace CommandLine

/-! ## The options -/

/-- The number a text writes with digits, after a plus if there is one, if it fits a word of 64 bits. -/
def count? (s : String) : Option Nat :=
  let digits := match s.toList with
    | '+' :: rest => rest
    | cs => cs
  if digits.isEmpty || !digits.all (fun c => '0' ≤ c && c ≤ '9') then none
  else some (digits.foldl (fun n c => 10 * n + (c.toNat - '0'.toNat)) 0) |>.filter (· < 2 ^ 64)

/-- An option whose value may be any text. -/
def textOption (name : String) : OptionRule := { name, kind := .single fun _ => true }

/-- The options of every command. -/
def sharedOptions : List OptionRule :=
  [{ name := "verbose", letter := some 'v', kind := .counted },
    textOption "config",
    { name := "max-iterations", kind := .single fun s => (count? s).isSome },
    textOption "diagnostics-log",
    { name := "help", letter := some 'h', kind := .help }]

def commandNames : List String := ["evaluate", "check", "action", "help"]

/-- What stands before the command. -/
def outerRule : CommandRule :=
  { options := { name := "version", letter := some 'V', kind := .version } :: sharedOptions
    commands := commandNames }

def setOption : OptionRule := { name := "set", kind := .repeated }

/-- What stands after the name of a command. -/
def innerRule : String → CommandRule
  | "evaluate" =>
    { options := sharedOptions ++ [textOption "form", setOption, textOption "format"]
      required := ["form"] }
  | "action" =>
    { options := sharedOptions ++ [textOption "form", textOption "button", setOption,
        { name := "var", kind := .repeated }, textOption "format"]
      required := ["form", "button"] }
  | _ => { options := sharedOptions ++ [textOption "form"], required := ["form"] }

/-! ## From words to a command line -/

def format (l : Level) : String := (l.value? "format").getD "console"

/-- The command of a name with its options. -/
def commandOf (name : String) (l : Level) : Command :=
  let form := (l.value? "form").getD ""
  match name with
  | "evaluate" => .evaluate form (l.valuesOf "set") (format l)
  | "action" =>
    .action form ((l.value? "button").getD "") (l.valuesOf "set") (l.valuesOf "var") (format l)
  | _ => .check form

/-- Help about a command, which may be the one for help. -/
def helpAbout : List String → UsageError
  | [] => .help
  | [name] => if commandNames.contains name then .help else .invalidCommand
  | _ => .invalidCommand

/-- The command line that two levels of options say. -/
def ofLevels (name : String) (outer inner : Level) : CommandLine :=
  let shared (option : String) : Option String :=
    (inner.value? option).or (outer.value? option)
  { command := commandOf name inner
    verbosity := ((inner.counts.lookup "verbose").or (outer.counts.lookup "verbose")).getD 0
    config := shared "config"
    maxIterations := (shared "max-iterations").bind count?
    diagnosticsLog := shared "diagnostics-log" }

/-- The command line that words say; the name of the program is not among them. -/
def ofWords (words : List String) : Except UsageError CommandLine := do
  match ← Level.read outerRule {} words with
  | (outer, none) =>
    let outer ← outer.settle outerRule
    .error (if outer.values.isEmpty && outer.counts.isEmpty then .helpForNothing else .missingCommand)
  | (_, some ("help", rest)) => .error (helpAbout rest)
  | (outer, some (name, rest)) =>
    let rule := innerRule name
    let (inner, _) ← Level.read rule {} rest
    let inner ← inner.finish rule
    let outer ← outer.finish outerRule
    return ofLevels name outer inner

end CommandLine

/-- The log level of a verbosity. -/
def logLevel : Nat → String
  | 0 => "warn"
  | 1 => "info"
  | 2 => "debug"
  | _ => "trace"

end Command

end LiveForm

import LiveForm.Action.Sending
import LiveForm.Command.Config
import LiveForm.Form.Loading
import LiveForm.Report.Console

/-!
# Running a command

A command is run on the text of its form and a configuration. What it comes to is an `Outcome`: what is
printed, how the program ends, and the diagnostics it has met, also those met before a failure. Files are
read and written around this. The one thing that is looked at on the way is a clock, in whatever monad there is
one: each diagnostic is taken down with the time it comes in.
-/

namespace LiveForm.Command

/-- What a run comes to. -/
structure Outcome where
  output : String := ""
  /-- The lines for the one who runs the program, apart from the output. -/
  notices : List String := []
  exitCode : Nat := 0
  diagnostics : List Diagnostic := []

/-- A panel and the diagnostics of everything that was done with it. -/
structure Session where
  panel : Panel Script.Program
  diagnostics : List Diagnostic := []

namespace Outcome

/-- A run that was ended by a failure. -/
def failed (e : FormError) (diagnostics : List Diagnostic) : Outcome :=
  { notices := ["Error: " ++ e.inspect], exitCode := 1, diagnostics }

end Outcome

namespace Session

variable {m : Type → Type} [Monad m]

/-- Diagnostics taken down as they come in, each with what the clock says. -/
def note (now : m Nat) (s : Session) (ds : List Diagnostic) : m Session := do
  let timed ← ds.mapM fun d => (d.reportedAt ·) <$> now
  return { s with diagnostics := s.diagnostics ++ timed }

/-- The session after an operation on its panel. -/
def apply (now : m Nat) (s : Session) (u : Update Script.Program) : m Session :=
  note now { s with panel := u.panel } u.diagnostics

/-- The panel of a form that a text holds, evaluated. -/
def opened (config : Config) (path : String) (form : Except FileFault String) :
    Except FormError (Update Script.Program) := do
  let source ← form.mapError (FormError.unreadable path)
  let d ← Definition.read (Notation.ofFileName path) source
  Panel.ofDefinition? (Script.Sandbox.engine config.limits) config.maxIterations d

/-- The edits made one after the other, or the first that fails and the session up to it. -/
def edit (now : m Nat) (s : Session) : List String → m (Except (FormError × Session) Session)
  | [] => return .ok s
  | raw :: rest => do
    match parseAssignment? raw with
    | none => return .error (.invalidArgument raw, s)
    | some (id, value) =>
      match s.panel.setValue id value with
      | .ok u => edit now (← s.apply now u) rest
      | .error e => return .error (e, s)

/-! ## Commands -/

/-- A report as it is asked for. -/
def print (format : String) (r : Report) : String :=
  if format == "json" then (r.toJson Diagnostic.toJson).indented ++ "\n" else r.console

/-- The report on a form. -/
def evaluate (format : String) (s : Session) : Outcome :=
  { output := print format (Report.ofPanel s.panel s.diagnostics), diagnostics := s.diagnostics }

/-- What is said about a form whose scripts were compiled. -/
def checkLines (path : String) (s : Session) (errors : List Diagnostic) : List String :=
  match errors with
  | [] =>
    [path ++ ": " ++ toString s.panel.published.elements.length ++ " elements, " ++
      toString s.panel.registry.compilations ++ " hooks compiled, no errors"]
  | _ =>
    (path ++ ": " ++ toString errors.length ++ " compile errors") ::
      errors.map fun d => "  " ++ d.line

/-- Whether all scripts of a form compile. -/
def check (now : m Nat) (path : String) (s : Session) : m Outcome := do
  let s ← s.note now s.panel.checkActions
  let errors := s.diagnostics.filter (·.kind == .compileError)
  return {
    output := String.join ((checkLines path s errors).map (· ++ "\n"))
    exitCode := if errors.isEmpty then 0 else 1
    diagnostics := s.diagnostics }

/-- The action of a button, run with variables and a network. -/
def action (now : m Nat) (config : Config) (network : Network) (announced : Bool)
    (button : String) (values : List (String × String)) (format : String) (s : Session) :
    m Outcome := do
  match s.panel.actionRequest button with
  | .error e => return .failed e s.diagnostics
  | .ok request =>
    let label := (s.panel.buttonLabel? button values).getD button
    let notices := if announced then ["Running action '" ++ label ++ "'..."] else []
    let (ended, _) := request.run config.limits { network, «variables» := .ofValues values }
    let s ← s.note now (request.diagnostics ended)
    match ended with
    | .ok outcome =>
      let s ← s.apply now (s.panel.applyOutcome outcome.changes)
      let r := { Report.ofPanel s.panel s.diagnostics with action := some outcome }
      return { output := print format r, notices, diagnostics := s.diagnostics }
    | .error fault =>
      let r := { Report.ofPanel s.panel s.diagnostics with actionError := some fault.message }
      return { output := print format r, notices, exitCode := 1, diagnostics := s.diagnostics }

end Session

/-- Variables with those that have been read put over them. -/
def putVariables (read base : List (String × String)) : List (String × String) :=
  read.foldl (fun sorted (name, value) => insertPair name value sorted) base

namespace CommandLine

variable {m : Type → Type} [Monad m]

/-- A session in which edits are made before a command. -/
def afterEdits (now : m Nat) (config : Config) (path : String) (form : Except FileFault String)
    (sets : List String) (continued : Session → m Outcome) : m Outcome := do
  match Session.opened config path form with
  | .error e => return .failed e []
  | .ok u =>
    let s ← Session.apply now { panel := u.panel } u
    match ← s.edit now sets with
    | .error (e, s) => return .failed e s.diagnostics
    | .ok s => continued s

/-- A command line run with a clock and with a configuration, which has been overridden, and the text of its form. -/
def perform (now : m Nat) (network : Network) (config : Config) (form : Except FileFault String)
    (line : CommandLine) : m Outcome :=
  match line.command with
  | .evaluate path sets format =>
    afterEdits now config path form sets fun s => return s.evaluate format
  | .check path => afterEdits now config path form [] (Session.check now path)
  | .action path button sets vars format =>
    afterEdits now config path form sets fun s =>
      match parsePairs vars with
      | .error raw => return .failed (.invalidArgument raw) s.diagnostics
      | .ok values =>
        s.action now config network (line.verbosity != 0) button
          (putVariables values config.variables) format

/-- A command line run while the clock stands still. -/
def run (time : Nat) (network : Network) (config : Config) (form : Except FileFault String)
    (line : CommandLine) : Outcome :=
  Id.run (line.perform (pure time) network config form)

end CommandLine

/-! ## Lines that are not run -/

/-- How the program is used. -/
def usage : String :=
  "Usage: form-panel [OPTIONS] <COMMAND>\n\nCommands:\n" ++
    "  evaluate --form <FORM> [--set <ID=VALUE>]... [--format <console|json>]\n" ++
    "  check --form <FORM>\n" ++
    "  action --form <FORM> --button <ID> [--set <ID=VALUE>]... [--var <NAME=VALUE>]... " ++
    "[--format <console|json>]\n" ++
    "  help [COMMAND]\n\nOptions:\n" ++
    "  -v, --verbose\n  --config <CONFIG>\n  --max-iterations <N>\n  --diagnostics-log <FILE>\n" ++
    "  -h, --help\n  -V, --version\n"

/-- The name of the program and its version. -/
def version : String := "form-panel 0.1.0"

/-- What is wrong with a command line. -/
def UsageError.message : UsageError → String
  | .unknownArgument => "error: unexpected argument"
  | .invalidCommand => "error: unrecognized subcommand"
  | .missingCommand => "error: a subcommand is required"
  | .missingRequired => "error: a required argument was not provided"
  | .missingValue => "error: an argument has no value"
  | .invalidValue => "error: invalid value"
  | .repeatedOption => "error: an argument cannot be used multiple times"
  | .unexpectedValue => "error: unexpected value"
  | .help | .helpForNothing | .version => ""

/-- What a command line comes to that is not run. Only help and the version that were asked for are
printed as output and end well. -/
def Outcome.ofUsage : UsageError → Outcome
  | .help => { output := usage }
  | .version => { output := version ++ "\n" }
  | e => { notices := [e.message, usage], exitCode := 2 }

/-- The lines that a run adds to a log in which its first diagnostics are written already. -/
def Outcome.logText (written : Nat) (o : Outcome) : String :=
  String.join ((o.diagnostics.drop written).map fun d => d.logLine ++ "\n")

end LiveForm.Command

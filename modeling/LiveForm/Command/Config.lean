import LiveForm.Command.Line
import LiveForm.Form.Assignment
import LiveForm.Script.Limits
import LiveForm.Yaml.Reader

/-!
# Configuration

What may be set in a file next to the form. Everything has a default, a file that cannot be read as a
configuration counts as none, and some options of the command line win over the file.
-/

namespace LiveForm.Command

structure Config where
  /-- The greatest number of passes of an evaluation. -/
  maxIterations : Nat := 10
  limits : Script.Limits := {}
  /-- How long a request may take, in milliseconds. -/
  timeout : Nat := 10000
  «variables» : List (String × String) := []
  /-- The file that diagnostics are appended to. -/
  logFile : Option String := none
  deriving DecidableEq, Repr

namespace Config

/-- The file that is read unless another one is named. -/
def defaultPath : String := "form-panel.yaml"

/-! ## Reading -/

def countMember (name : String) : Member Schema := { name, shape := .count }

def evaluatorSchema : Schema := .record "EvaluatorConfig" [countMember "max_iterations"]

def limitsSchema : Schema :=
  .record "SandboxLimits"
    (["max_operations", "max_call_levels", "max_expr_depth", "max_function_expr_depth",
      "max_string_size", "max_array_size", "max_map_size"].map countMember)

def schema : Schema :=
  .record "AppConfig"
    [{ name := "evaluator", shape := evaluatorSchema },
      { name := "sandbox", shape := limitsSchema },
      { name := "requests", shape := .record "RequestConfig" [countMember "timeout_ms"] },
      { name := "variables", shape := .texts },
      { name := "diagnostics",
        shape := .record "DiagnosticsConfig"
          [{ name := "log_file", listed := true, shape := .optional .text }] }]

/-- A count in a part of a datum. -/
def countIn (d : Datum) (part name : String) (fallback : Nat) : Nat :=
  ((d.get? part).bind (·.countAt? name)).getD fallback

/-- The limits that a datum sets, each with its default. -/
def limitsOfDatum (d : Datum) : Script.Limits :=
  let fallback : Script.Limits := {}
  let count := countIn d "sandbox"
  { operations := count "max_operations" fallback.operations
    callLevels := count "max_call_levels" fallback.callLevels
    depth := count "max_expr_depth" fallback.depth
    functionDepth := count "max_function_expr_depth" fallback.functionDepth
    textSize := count "max_string_size" fallback.textSize
    arraySize := count "max_array_size" fallback.arraySize
    mapSize := count "max_map_size" fallback.mapSize }

/-- Variables in the order of their names; of several with one name the last counts. -/
def variablesOfDatum : Datum → List (String × String)
  | .record members =>
    members.foldl (fun sorted (name, value) => insertPair name (value.asText?.getD "") sorted) []
  | _ => []

def ofDatum (d : Datum) : Config :=
  let fallback : Config := {}
  { maxIterations := countIn d "evaluator" "max_iterations" fallback.maxIterations
    limits := limitsOfDatum d
    timeout := countIn d "requests" "timeout_ms" fallback.timeout
    «variables» := ((d.get? "variables").map variablesOfDatum).getD []
    logFile := (d.get? "diagnostics").bind (·.textAt? "log_file") }

/-- The configuration that a text says; a text that says none gives the defaults. -/
def read (source : String) : Config := ((Yaml.readAs? schema source).map ofDatum).getD {}

/-- The configuration with what the command line sets. -/
def override (c : Config) (line : CommandLine) : Config :=
  { c with
    maxIterations := line.maxIterations.getD c.maxIterations
    logFile := line.diagnosticsLog.or c.logFile }

end Config

end LiveForm.Command

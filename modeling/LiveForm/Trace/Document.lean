import LiveForm.Json.Printer
import LiveForm.Json.Reader
import LiveForm.Trace.Diagnostic

/-!
# Diagnostics as documents

A diagnostic is written as an object with its time in front. The log keeps one such object a line: the compact
text of a value has no line breaks, whatever the detail holds. A number in a document is an integer of 64 bits
or a float, but a time may be any number of milliseconds, so in the log it stands with all its digits
(`Diagnostic.logLine`), and is read digit by digit when a line is taken apart (`Diagnostic.ofLine?`).
-/

namespace LiveForm.Diagnostic

def Source.toJson : Source → Json
  | .hook kind => .obj [("hook", .str kind.name)]
  | s => .str s.name

/-- A diagnostic as it is written, without the time. -/
def members (d : Diagnostic) : List (String × Json) :=
  [("kind", .str d.kind.name), ("element_id", (d.elementId.map Json.str).getD .null),
    ("source", d.source.toJson), ("detail", .str d.detail)]

/-- A diagnostic as it is written. -/
def toJson (d : Diagnostic) : Json := .obj (("timestamp_ms", .nat d.time) :: d.members)

/-- What a line of the log starts with. -/
def lineStart : String := "\x7b" ++ Json.quote "timestamp_ms" ++ ":"

/-- The line of a diagnostic in a log. -/
def logLine (d : Diagnostic) : String :=
  lineStart ++ toString d.time ++ "," ++ Json.compactMembers d.members ++ "\x7d"

/-! ## Taking a line apart -/

def Kind.ofName? (name : String) : Option Kind :=
  [Kind.compileError, .hookFault, .convergenceExceeded, .actionFault].find? (·.name == name)

def Source.ofJson? : Json → Option Source
  | .obj [("hook", .str name)] => (HookKind.ofName? name).map .hook
  | .str "action" => some .action
  | .str "evaluator" => some .evaluator
  | _ => none

/-- The diagnostic of a time and a document with the other fields. -/
def ofJson? (time : Nat) (v : Json) : Option Diagnostic := do
  let id ← match ← v.get? "element_id" with
    | .null => some none
    | .str id => some (some id)
    | _ => none
  return {
    time
    kind := ← ((← v.get? "kind").asText?).bind Kind.ofName?
    elementId := id
    source := ← (← v.get? "source") |> Source.ofJson?
    detail := ← (← v.get? "detail").asText? }

/-- The diagnostic that a line of a log tells: its time is written in digits, and what follows the comma behind
them are the members of an object. -/
def ofLine? (line : String) : Option Diagnostic := do
  guard (lineStart.toList.isPrefixOf line.toList)
  let timed := line.toList.drop lineStart.toList.length
  let others := (timed.dropWhile Char.isDigit).tail
  ofJson? (Json.Reader.valueOfDigits (timed.takeWhile Char.isDigit)) (← Json.read? (String.ofList ('\x7b' :: others)))

end LiveForm.Diagnostic

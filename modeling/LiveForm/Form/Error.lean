import LiveForm.Json.Error

/-!
# What can go wrong around a form

The failures of loading a form, of naming elements that are not there, and of requests. A script that
fails is none of these: it is contained and reported as a diagnostic. A failure has a wording for users
(`FormError.message`) and one that shows its parts (`FormError.inspect`).
-/

namespace LiveForm

/-- Why a file could not be read. -/
inductive FileFault where
  | missing
  | isDirectory
  /-- Something before the last part of the path is a file. -/
  | underFile
  | notText
  deriving DecidableEq, Repr

namespace FileFault

/-- The number that the system has for a fault. -/
def code? : FileFault → Option Nat
  | .missing => some 2
  | .isDirectory => some 21
  | .underFile => some 20
  | .notText => none

def kind : FileFault → String
  | .missing => "NotFound"
  | .isDirectory => "IsADirectory"
  | .underFile => "NotADirectory"
  | .notText => "InvalidData"

def reason : FileFault → String
  | .missing => "No such file or directory"
  | .isDirectory => "Is a directory"
  | .underFile => "Not a directory"
  | .notText => "stream did not contain valid UTF-8"

def message (f : FileFault) : String :=
  match f.code? with
  | some n => f.reason ++ " (os error " ++ toString n ++ ")"
  | none => f.reason

/-- The parts of a fault. -/
def inspect (f : FileFault) : String :=
  let rest := "kind: " ++ f.kind ++ ", message: " ++ Text.quoted f.reason ++ " \x7d"
  match f.code? with
  | some n => "Os \x7b code: " ++ toString n ++ ", " ++ rest
  | none => "Error \x7b " ++ rest

end FileFault

/-- A failure that an operation answers with. -/
inductive FormError where
  | unreadable (path : String) (fault : FileFault)
  | malformedYaml (context : String)
  | malformedJson (context : String) (error : Json.Error)
  | duplicateElement (id : String)
  | elementNotFound (id : String)
  | notAButton (id : String)
  | request (url message : String)
  | invalidArgument (raw : String)

namespace FormError

/-- The wording of a failure. -/
def message : FormError → String
  | .unreadable path fault => "failed to read " ++ path ++ ": " ++ fault.message
  | .malformedYaml context => "YAML parse error (" ++ context ++ ")"
  | .malformedJson context e => "JSON error (" ++ context ++ "): " ++ e.message
  | .duplicateElement id => "duplicate element id '" ++ id ++ "'"
  | .elementNotFound id => "element '" ++ id ++ "' not found"
  | .notAButton id => "element '" ++ id ++ "' is not a button"
  | .request url message => "request to " ++ url ++ " failed: " ++ message
  | .invalidArgument raw => "invalid argument '" ++ raw ++ "', expected name=value"

/-- A failure that has one text. -/
def inspectNamed (name text : String) : String := name ++ "(" ++ Text.quoted text ++ ")"

/-- The parts of a failure. -/
def inspect : FormError → String
  | .unreadable path fault =>
    "Io \x7b path: " ++ Text.quoted path ++ ", source: " ++ fault.inspect ++ " \x7d"
  | .malformedYaml _ => "Yaml"
  | .malformedJson context e =>
    "Json \x7b context: " ++ Text.quoted context ++ ", source: Error(" ++
      Text.quoted e.cause.message ++ ", line: " ++ toString e.place.line ++ ", column: " ++
      toString e.place.column ++ ") \x7d"
  | .duplicateElement id => inspectNamed "DuplicateElement" id
  | .elementNotFound id => inspectNamed "ElementNotFound" id
  | .notAButton id => inspectNamed "NotAButton" id
  | .request url message =>
    "Request \x7b url: " ++ Text.quoted url ++ ", message: " ++ Text.quoted message ++ " \x7d"
  | .invalidArgument raw => inspectNamed "InvalidArgument" raw

end FormError

end LiveForm

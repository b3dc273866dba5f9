import LiveForm.Script.SyntaxError
import LiveForm.Script.ValueText

/-!
# Faults of a running script

What stops a script while it runs. A `Cause` says what went wrong; a `Fault` adds where, and through which
calls the fault came up: each call of a function of the script puts itself around the fault of its body.
Some causes are not for the script to handle; they come up through `try` and through calls as they are
(`Cause.isFinal`).
-/

namespace LiveForm.Script

/-- What an index can be out of bounds of. -/
inductive Indexed where
  | array
  | text
  | bits
  deriving DecidableEq, Repr

inductive Cause where
  | thrown (v : Value)
  | variableNotFound (name : String)
  /-- No function fits the call; `signature` is its name with the kinds of the arguments. -/
  | functionNotFound (signature : String)
  | unknownProperty (name kind : String)
  | unwritableProperty (name kind valueKind : String)
  | notIndexable (signature : String)
  | mismatch (wanted found : String)
  | unfitResult (wanted found : String)
  | arithmetic (message : String)
  | outOfBounds (of : Indexed) (count : Nat) (index : Int)
  | notIterable
  | constantModified (name : String)
  | constantReceiver (method : String)
  | thisUnbound
  | tooLarge (what : String)
  | tooManySteps
  | tooManyCalls
  | unreadable (message : String)
  /-- A source that the script itself has read is refused. -/
  | refused (e : SyntaxError)
  /-- A fault inside of a function that the host has. -/
  | within (function : String) (c : Cause)
  /-- A function that the host calls for each item has tried to end the whole script. -/
  | exited
  | moduleNotFound (name : String)

namespace Cause

/-- How many things something holds, in words. -/
def countText (one many place : String) (n : Nat) : String :=
  match n with
  | 0 => place ++ " is empty"
  | 1 => "only 1 " ++ one ++ " in " ++ place
  | n => "only " ++ toString n ++ " " ++ many ++ " in " ++ place

def message : Cause → String
  | .thrown v => if v.shown.isEmpty then "Runtime error" else "Runtime error: " ++ v.shown
  | .variableNotFound name => "Variable not found: " ++ name
  | .functionNotFound signature => "Function not found: " ++ signature
  | .unknownProperty name kind =>
    "Unknown property '" ++ name ++ "' - a getter is not registered for type '" ++ kind ++ "'"
  | .unwritableProperty name kind valueKind =>
    "No writable property '" ++ name ++ "' - a setter is not registered for type '" ++ kind ++
      "' to handle '" ++ valueKind ++ "'"
  | .notIndexable signature => "Indexer unavailable: " ++ signature
  | .mismatch wanted found =>
    "Data type incorrect: " ++ found ++
      (if wanted.isEmpty then "" else " (expecting " ++ wanted ++ ")")
  | .unfitResult wanted found => "Output type incorrect: " ++ found ++ " (expecting " ++ wanted ++ ")"
  | .arithmetic m => m
  | .outOfBounds of count index =>
    match of with
    | .array =>
      "Array index " ++ toString index ++ " out of bounds: " ++
        countText "element" "elements" "array" count
    | .text =>
      "String index " ++ toString index ++ " out of bounds: " ++
        countText "character" "characters" "string" count
    | .bits =>
      "Bit-field index " ++ toString index ++ " out of bounds: " ++
        countText "bit" "bits" "bit-field" count
  | .notIterable => "For loop expects iterable type"
  | .constantModified name => "Cannot modify constant " ++ name
  | .constantReceiver method =>
    "Non-pure method '" ++ method ++ "' cannot be called on constant"
  | .thisUnbound => "'this' not bound"
  | .tooLarge what => what ++ " too large"
  | .tooManySteps => "Too many operations"
  | .tooManyCalls => "Stack overflow"
  | .unreadable m => m
  | .refused e => "Syntax error: " ++ e.message
  | .within function c => c.message ++ "\nin call to function '" ++ function ++ "'"
  | .exited => "NOT AN ERROR - exit value"
  | .moduleNotFound name => "Module not found: " ++ name

/-- Whether a fault of this cause ends the script whatever surrounds it. -/
def isFinal : Cause → Bool
  | .tooLarge _ | .tooManySteps | .tooManyCalls => true
  | _ => false

/-- The name a script finds in the description of a fault it has caught. -/
def label : Cause → String
  | .thrown _ => "ErrorRuntime"
  | .variableNotFound _ => "ErrorVariableNotFound"
  | .functionNotFound _ => "ErrorFunctionNotFound"
  | .unknownProperty _ _ | .unwritableProperty _ _ _ => "ErrorDotExpr"
  | .notIndexable _ => "ErrorIndexingType"
  | .mismatch _ _ => "ErrorMismatchDataType"
  | .unfitResult _ _ => "ErrorMismatchOutputType"
  | .arithmetic _ => "ErrorArithmetic"
  | .outOfBounds of _ _ =>
    match of with
    | .array => "ErrorArrayBounds"
    | .text => "ErrorStringBounds"
    | .bits => "ErrorBitFieldBounds"
  | .notIterable => "ErrorFor"
  | .constantModified _ => "ErrorAssignmentToConstant"
  | .constantReceiver _ => "ErrorNonPureMethodCallOnConstant"
  | .thisUnbound => "ErrorUnboundThis"
  | .tooLarge _ => "ErrorDataTooLarge"
  | .tooManySteps => "ErrorTooManyOperations"
  | .tooManyCalls => "ErrorStackOverflow"
  | .unreadable _ | .refused _ => "ErrorParsing"
  | .within _ _ => "ErrorInFunctionCall"
  | .exited => "Exit"
  | .moduleNotFound _ => "ErrorModuleNotFound"

/-- What else such a description has. -/
def details (c : Cause) : List (String × Value) :=
  match c with
  | .variableNotFound name | .constantModified name => [("variable", .text name)]
  | .functionNotFound signature => [("function", .text signature)]
  | .constantReceiver method => [("function", .text method)]
  | .unknownProperty _ _ | .unwritableProperty _ _ _ => [("property", .text c.message)]
  | .tooLarge what => [("type", .text what)]
  | .moduleNotFound name => [("module", .text name)]
  | .notIndexable signature => [("type", .text signature)]
  | .mismatch wanted found | .unfitResult wanted found =>
    [("requested", .text wanted), ("actual", .text found)]
  | .outOfBounds _ count index => [("length", .ofNat count), ("index", .int (Int64.ofInt index))]
  | _ => []

end Cause

/-- A cause with its place, and the calls around it. -/
inductive Fault where
  | plain (cause : Cause) (pos : Option Position)
  | inCall (function : String) (inner : Fault) (pos : Option Position)

namespace Fault

def position : Fault → Option Position
  | .plain _ p | .inCall _ _ p => p

/-- A position in parentheses behind a message. -/
def placeText : Option Position → String
  | some p => " (" ++ p.describe ++ ")"
  | none => ""

/-- The line that names a call. -/
def callText (function : String) : String :=
  if Value.isClosureName function then "in closure call"
  else "in call to function '" ++ function ++ "'"

/-- The message with the places of all but the outermost fault. -/
def message : Fault → String
  | .plain c _ => c.message
  | .inCall function inner _ =>
    inner.message ++ placeText inner.position ++ "\n" ++ callText function

/-- A fault of a cause that is met at a place. A source has places of its own. -/
def met (p : Position) : Cause → Fault
  | .refused e => .plain (.refused e) (some e.position)
  | .within function c => .inCall function (.plain c none) (some p)
  | c => .plain c (some p)

/-- A fault at another place. -/
def moved (p : Position) : Fault → Fault
  | .plain c _ => .plain c (some p)
  | .inCall function inner _ => .inCall function inner (some p)

def isFinal : Fault → Bool
  | .plain c _ => c.isFinal
  | .inCall _ _ _ => false

/-- The cause at the bottom of the calls. -/
def innermost : Fault → Cause
  | .plain c _ => c
  | .inCall _ inner _ => inner.innermost

/-- A fault that came out of a call at this place. -/
def throughCall (function : String) (p : Position) (f : Fault) : Fault :=
  if f.isFinal then f.moved p else .inCall function f (some p)

/-- What a script sees of a fault it has caught: the thrown value, or a description. -/
def caught (f : Fault) : Value :=
  match f.innermost with
  | .thrown v => v
  | _ =>
    let place := match f.position with
      | some p => [("line", Value.ofNat p.line), ("position", .ofNat p.column)]
      | none => []
    let rest := match f with
      | .plain c _ => ("error", Value.text c.label) :: c.details
      | .inCall function _ _ =>
        [("error", .text "ErrorInFunctionCall"), ("function", .text function), ("source", .text "")]
    .ofMembers (("message", .text f.message) :: place ++ rest)

end Fault

end LiveForm.Script

import LiveForm.Script.Position

/-!
# Why a script does not compile

A script is refused at its first fault: characters that are no token, or a token that does not fit where
it stands. `Refusal.message` has the wording; a `SyntaxError` adds the position.
-/

namespace LiveForm.Script

/-- Characters that are no token. -/
inductive TokenFault where
  | unexpected (s : String)
  | escape (s : String)
  | number (s : String)
  | character (s : String)
  | badName (s : String)
  | openText
  | textTooLong (limit : Nat)
  /-- A sign of another language, with advice. -/
  | foreign (advice : String)
  | disabled (kind word : String)

def TokenFault.message : TokenFault → String
  | .unexpected s => "Unexpected '" ++ s ++ "'"
  | .escape s => "Invalid escape sequence: '" ++ s ++ "'"
  | .number s => "Invalid number: '" ++ s ++ "'"
  | .character s => "Invalid character: '" ++ s ++ "'"
  | .badName s => "Variable name is not proper: '" ++ s ++ "'"
  | .openText => "Open string is not terminated"
  | .textTooLong limit => "Length of string exceeds the maximum limit (" ++ toString limit ++ ")"
  | .foreign advice => advice
  | .disabled kind word => "reserved " ++ kind ++ " '" ++ word ++ "' is disabled"

/-- Why a script is refused. -/
inductive Refusal where
  | token (f : TokenFault)
  | incomplete
  | unknownOperator (s : String)
  | missing (sign purpose : String)
  | wrongKind (wanted found : String)
  | expressionExpected (what : String)
  | badIndex (reason : String)
  | functionExists (name : String) (parameters : Nat)
  | functionNameExpected
  | parametersExpected (function : String)
  | duplicateParameter (name function : String)
  | bodyExpected (function : String)
  | misplacedFunction
  | misplacedExport
  | duplicateProperty (name : String)
  | duplicateVariable (name : String)
  | numberAfterRange
  | defaultNotLast
  | conditionOnDefault
  | propertyExpected
  | variableExpected
  | undefinedVariable (name : String)
  | unknownModule (name : String)
  | constantAssigned (name : String)
  | notAssignable
  | methodStyle (name : String)
  | misplacedThis
  | tooDeep
  | literalTooLarge (what : String) (limit : Nat)
  | reservedWord (word : String)
  | reservedSign (sign : String)
  | misplacedBreak
  | captureInMethod

def Refusal.message : Refusal → String
  | .token f => f.message
  | .incomplete => "Script is incomplete"
  | .unknownOperator s => "Unknown operator: '" ++ s ++ "'"
  | .missing sign purpose => "Expecting '" ++ sign ++ "' " ++ purpose
  | .wrongKind wanted found => "Expecting " ++ wanted ++ ", not " ++ found
  | .expressionExpected what => "Expecting " ++ what ++ " expression"
  | .badIndex reason => reason
  | .functionExists name parameters =>
    "Function " ++ name ++ " with " ++
      (match parameters with
      | 0 => "no parameters"
      | 1 => "1 parameter"
      | n => toString n ++ " parameters") ++ " already exists"
  | .functionNameExpected => "Expecting function name in function declaration"
  | .parametersExpected function => "Expecting parameters for function " ++ function
  | .duplicateParameter name function =>
    "Duplicated parameter " ++ name ++ " for function " ++ function
  | .bodyExpected function => "Expecting body statement block for function " ++ function
  | .misplacedFunction =>
    "Function definitions must be at global level and cannot be inside a block or another function"
  | .misplacedExport => "Export statement can only appear at global level"
  | .duplicateProperty name => "Duplicated property for object map literal: " ++ name
  | .duplicateVariable name => "Duplicated variable name: " ++ name
  | .numberAfterRange => "Numeric switch case cannot follow a range case"
  | .defaultNotLast => "Default switch case must be the last"
  | .conditionOnDefault => "This switch case cannot have a condition"
  | .propertyExpected => "Expecting name of a property"
  | .variableExpected => "Expecting name of a variable"
  | .undefinedVariable name => "Undefined variable: " ++ name
  | .unknownModule name => "Undefined module: " ++ name
  | .constantAssigned name =>
    if name.isEmpty then "Cannot assign to a constant value" else "Cannot assign to constant " ++ name
  | .notAssignable => "Expression cannot be assigned to"
  | .methodStyle name =>
    "'" ++ name ++ "' should not be called in method style. Try " ++ name ++ "(...);"
  | .misplacedThis => "'this' can only be used in functions"
  | .tooDeep => "Expression exceeds maximum complexity"
  | .literalTooLarge what limit => what ++ " exceeds the maximum limit (" ++ toString limit ++ ")"
  | .reservedWord word => "'" ++ word ++ "' is a reserved keyword"
  | .reservedSign sign => "'" ++ sign ++ "' is a reserved symbol"
  | .misplacedBreak => "Break statement should only be used inside a loop"
  | .captureInMethod =>
    "method-call style does not support running within the caller's scope"

/-- Why a script is refused, and where. -/
structure SyntaxError where
  refusal : Refusal
  position : Position

def SyntaxError.message (e : SyntaxError) : String := e.refusal.message

end LiveForm.Script

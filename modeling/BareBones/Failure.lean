import BareBones.Source.Location
import BareBones.Text.Quoted
import BareBones.Text.Utf8

set_option autoImplicit false

namespace BareBones

inductive FaultKind where
  | general
  | undefinedVariable
  | invalidSyntax
  | unterminatedBlock
  | unsupportedOperator
  | divisionByZero
deriving DecidableEq, Repr

def FaultKind.name : FaultKind → Text
  | .general => "BareRuntimeError".toList
  | .undefinedVariable => "UndefinedVariable".toList
  | .invalidSyntax => "InvalidSyntax".toList
  | .unterminatedBlock => "UnterminatedBlock".toList
  | .unsupportedOperator => "UnsupportedOperator".toList
  | .divisionByZero => "DivisionByZero".toList

inductive Cause where
  | undefined (name : Text)
  | blankName (rule subject : Text)
  | badHeader (keyword header : Text)
  | badFunctionName (name : Text)
  | strayBoundary (statement : Text)
  | badElse (clause : Text)
  | unterminated (keyword : Text)
  | unknownCall (statement : Text)
  | unsupported
  | badPredicate (predicate : Text)
  | unknownComparison (operator left right : Text)
  | nonInteger (operator token value : Text)
  | zeroDivisor (dividend divisor : Text)
  | zeroModulus (dividend divisor : Text)
  | notCountable (rule verb name value : Text)
  | depthLimit (limit : Text)
  | raised (kind : FaultKind) (message : Text)
  | handlerFailed (event message : Text)
  | internal (message : Text)
deriving DecidableEq, Repr

def Cause.kind : Cause → FaultKind
  | .undefined _ => .undefinedVariable
  | .blankName _ _ | .badHeader _ _ | .badFunctionName _ | .strayBoundary _ | .badElse _
  | .unknownCall _ | .unsupported | .badPredicate _ => .invalidSyntax
  | .unterminated _ => .unterminatedBlock
  | .unknownComparison _ _ _ | .nonInteger _ _ _ | .notCountable _ _ _ _ => .unsupportedOperator
  | .zeroDivisor _ _ | .zeroModulus _ _ => .divisionByZero
  | .raised kind _ => kind
  | .depthLimit _ | .handlerFailed _ _ | .internal _ => .general

def Cause.rule : Cause → Option Text
  | .undefined _ => some "read".toList
  | .blankName rule _ => some rule
  | .badHeader keyword _ => some keyword
  | .badFunctionName _ => some "function".toList
  | .strayBoundary _ => some "block".toList
  | .badElse _ => some "if".toList
  | .unterminated keyword => some keyword
  | .unknownCall _ => some "call".toList
  | .unsupported => none
  | .badPredicate _ => some "predicate".toList
  | .unknownComparison operator _ _ => some operator
  | .nonInteger operator _ _ => some operator
  | .zeroDivisor _ _ => some "/".toList
  | .zeroModulus _ _ => some "%".toList
  | .notCountable rule _ _ _ => some rule
  | .depthLimit _ => some "depth".toList
  | .raised _ _ => none
  | .handlerFailed _ _ => some "hook".toList
  | .internal _ => some "internal".toList

def Cause.message : Cause → Text
  | .undefined name => "Undefined reference to variable ".toList ++ name.cited
  | .blankName _ subject => "Got blank variable name in ".toList ++ subject.cited
  | .badHeader keyword header =>
      "Invalid ".toList ++ keyword ++ " header: ".toList ++ header.cited ++ " (expected '".toList ++
        keyword ++ " ... do')".toList
  | .badFunctionName name => "Invalid function name ".toList ++ name.cited
  | .strayBoundary statement =>
      "Unexpected ".toList ++ statement.cited ++ " outside of a block".toList
  | .badElse clause => "Invalid else clause: ".toList ++ clause.cited
  | .unterminated keyword =>
      "Reached end of file while trying to parse ".toList ++ keyword ++ " block".toList
  | .unknownCall statement => "Invalid syntax: ".toList ++ statement.cited
  | .unsupported => "Unsupported statement".toList
  | .badPredicate predicate =>
      "Invalid predicate ".toList ++ predicate.cited ++
        " (expected '<operand> <operator> <operand>')".toList
  | .unknownComparison operator left right =>
      "Unknown operator ".toList ++ operator.cited ++ " between ".toList ++ left.cited ++
        " and ".toList ++ right.cited
  | .nonInteger operator token value =>
      "Operator ".toList ++ operator.cited ++ " requires integer operands in ".toList ++
        token.cited ++ " (got ".toList ++ value.cited ++ ")".toList
  | .zeroDivisor dividend divisor =>
      "Division by zero in ".toList ++ Text.cited (dividend ++ "/".toList ++ divisor)
  | .zeroModulus dividend divisor =>
      "Modulo by zero in ".toList ++ Text.cited (dividend ++ "%".toList ++ divisor)
  | .notCountable _ verb name value =>
      "Cannot ".toList ++ verb ++ " non-integer variable ".toList ++ name.cited ++
        " (value ".toList ++ value.cited ++ ")".toList
  | .depthLimit limit => "Invocation depth limit of ".toList ++ limit ++ " exceeded".toList
  | .raised _ message => message
  | .handlerFailed event message =>
      "Hook for ".toList ++ event.cited ++ " failed: ".toList ++ message
  | .internal message => "Internal interpreter error: ".toList ++ message

structure Fault where
  cause : Cause
  location : Option Location
  step : Option Nat
deriving DecidableEq, Repr

def Fault.kind (fault : Fault) : FaultKind := fault.cause.kind
def Fault.rule (fault : Fault) : Option Text := fault.cause.rule
def Fault.message (fault : Fault) : Text := fault.cause.message

def Fault.of (cause : Cause) : Fault := ⟨cause, none, none⟩

def Fault.at (location : Location) (cause : Cause) : Fault := ⟨cause, some location, none⟩

inductive Signal where
  | noLines
  | endOfInput (message : Text)
  | unknownEvent (event : Text)
  | handler (message : Text)
  | general (message : Text)
deriving DecidableEq, Repr

def Signal.message : Signal → Text
  | .noLines => "No lines remaining".toList
  | .unknownEvent event => "Unknown event ".toList ++ event.cited
  | .endOfInput message | .handler message | .general message => message

def digitLimit : Nat := 4300

inductive Breakdown where
  | badLiteral (text : Text)
  | longLiteral (digits : Nat)
  | longInteger
  | noWord
  | blankLimit
  | longLimit
  | negativeHistory
  | vastHistory
  | undecodable (flaw : Text.Utf8.Flaw)
  | infiniteNumber
  | nullInName
  | raised (message : Text)
deriving DecidableEq, Repr

def Breakdown.message : Breakdown → Text
  | .badLiteral text =>
      "invalid literal for int() with base 10: ".toList ++ text.quoted.take 200
  | .longLiteral digits =>
      "Exceeds the limit (".toList ++ Text.ofNat digitLimit ++
        " digits) for integer string conversion: value has ".toList ++ Text.ofNat digits ++
        " digits; use sys.set_int_max_str_digits() to increase the limit".toList
  | .longInteger | .longLimit =>
      "Exceeds the limit (".toList ++ Text.ofNat digitLimit ++
        " digits) for integer string conversion; ".toList ++
        "use sys.set_int_max_str_digits() to increase the limit".toList
  | .noWord => "list index out of range".toList
  | .blankLimit => "'>=' not supported between instances of 'int' and 'list'".toList
  | .negativeHistory => "maxlen must be non-negative".toList
  | .vastHistory => "Python int too large to convert to C ssize_t".toList
  | .undecodable flaw => flaw.message
  | .infiniteNumber => "cannot convert float infinity to integer".toList
  | .nullInName => "embedded null byte".toList
  | .raised message => message

inductive Failure where
  | fault (fault : Fault)
  | signal (signal : Signal)
  | breakdown (breakdown : Breakdown)
deriving DecidableEq, Repr

def Failure.message : Failure → Text
  | .fault f => f.message
  | .signal s => s.message
  | .breakdown b => b.message

def Failure.located (location : Location) : Failure → Failure
  | .fault f => .fault { f with location := f.location <|> some location }
  | other => other

end BareBones

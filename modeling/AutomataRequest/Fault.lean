/-!
Faults: the reasons why a request cannot be served, each with its cause and one message. A
report is a fault's kind with whatever else was known where it arose.
-/

namespace AutomataRequest

inductive FaultKind where
  | unknownEncoding
  | unknownOperation
  | unknownDirection
  | unknownOrder
  | missingOptions
  | invalidOptionsShape
  | invalidConfig
  | serialization
  | io
  deriving DecidableEq, Repr

namespace FaultKind

def all : List FaultKind :=
  [.unknownEncoding, .unknownOperation, .unknownDirection, .unknownOrder, .missingOptions,
    .invalidOptionsShape, .invalidConfig, .serialization, .io]

def label : FaultKind → String
  | .unknownEncoding => "UnknownEncoding"
  | .unknownOperation => "UnknownOperation"
  | .unknownDirection => "UnknownDirection"
  | .unknownOrder => "UnknownOrder"
  | .missingOptions => "MissingOptions"
  | .invalidOptionsShape => "InvalidOptionsShape"
  | .invalidConfig => "InvalidConfig"
  | .serialization => "Serialization"
  | .io => "Io"

/-- A code that stays the same when the wording of a message changes. -/
def code : FaultKind → String
  | .unknownEncoding => "ERR_UNKNOWN_ENCODING"
  | .unknownOperation => "ERR_UNKNOWN_OPERATION"
  | .unknownDirection => "ERR_UNKNOWN_DIRECTION"
  | .unknownOrder => "ERR_UNKNOWN_ORDER"
  | .missingOptions => "ERR_MISSING_OPTIONS"
  | .invalidOptionsShape => "ERR_INVALID_OPTIONS_SHAPE"
  | .invalidConfig => "ERR_INVALID_CONFIG"
  | .serialization => "ERR_SERIALIZATION"
  | .io => "ERR_IO"

/-- True of the kinds that only a badly built request brings about, and not a bad file or a
bad environment. -/
def isContractViolation : FaultKind → Bool
  | .unknownEncoding | .unknownOperation | .unknownDirection | .unknownOrder
  | .missingOptions | .invalidOptionsShape => true
  | .invalidConfig | .serialization | .io => false

end FaultKind

inductive Fault where
  | unknownEncoding (token : String)
  | unknownOperation (token : String)
  | unknownDirection (token : String)
  | unknownOrder (token : String)
  | missingOptions (operation expected : String)
  | invalidOptionsShape (operation expected found : String)
  | invalidConfig (message : String)
  | serialization (message : String)
  | io (message : String)
  deriving DecidableEq, Repr

namespace Fault

def kind : Fault → FaultKind
  | .unknownEncoding _ => .unknownEncoding
  | .unknownOperation _ => .unknownOperation
  | .unknownDirection _ => .unknownDirection
  | .unknownOrder _ => .unknownOrder
  | .missingOptions _ _ => .missingOptions
  | .invalidOptionsShape _ _ _ => .invalidOptionsShape
  | .invalidConfig _ => .invalidConfig
  | .serialization _ => .serialization
  | .io _ => .io

def message : Fault → String
  | .unknownEncoding token => "Unknown encoding: " ++ token
  | .unknownOperation token => "Unknown operation: " ++ token
  | .unknownDirection token => "Unknown direction: " ++ token
  | .unknownOrder token => "Unknown order: " ++ token
  | .missingOptions operation expected =>
      "Operation " ++ operation ++ " requires " ++ expected ++ " options but none were given"
  | .invalidOptionsShape operation expected found =>
      "Operation " ++ operation ++ " expects " ++ expected ++ " options, got " ++ found
  | .invalidConfig message => "Invalid configuration: " ++ message
  | .serialization message => "Serialization error: " ++ message
  | .io message => "I/O error: " ++ message

end Fault

/-- What is known about a failure: the library call, the automata operation and the text in
question are there only if the call that failed could name them. -/
structure FaultReport where
  kind : FaultKind
  call : Option String := none
  operation : Option String := none
  token : Option String := none
  message : String := ""
  deriving DecidableEq, Repr

namespace FaultReport

def ofKind (kind : FaultKind) : FaultReport := { kind }

def withCall (report : FaultReport) (call : String) : FaultReport :=
  { report with call := some call }

def withOperation (report : FaultReport) (operation : String) : FaultReport :=
  { report with operation := some operation }

def withToken (report : FaultReport) (token : String) : FaultReport :=
  { report with token := some token }

def withMessage (report : FaultReport) (message : String) : FaultReport :=
  { report with message }

def code (report : FaultReport) : String := report.kind.code

/-- Every part but the code is left out when there is nothing to say. -/
def text (report : FaultReport) : String :=
  "[" ++ report.code ++ "]" ++
    (match report.call with
      | some call => " in operation '" ++ call ++ "'"
      | none => "") ++
    (if report.message.isEmpty then "" else ": " ++ report.message) ++
    (match report.operation with
      | some operation => " (operation: " ++ operation ++ ")"
      | none => "") ++
    (match report.token with
      | some token => " (token: " ++ token ++ ")"
      | none => "")

end FaultReport

namespace Fault

def report (fault : Fault) : FaultReport :=
  let base := (FaultReport.ofKind fault.kind).withMessage fault.message
  match fault with
  | .unknownEncoding token | .unknownOperation token
  | .unknownDirection token | .unknownOrder token => base.withToken token
  | .missingOptions operation _ | .invalidOptionsShape operation _ _ =>
      base.withOperation operation
  | .invalidConfig _ | .serialization _ | .io _ => base

theorem report_kind (fault : Fault) : fault.report.kind = fault.kind := by
  cases fault <;> rfl

theorem report_message (fault : Fault) : fault.report.message = fault.message := by
  cases fault <;> rfl

end Fault

end AutomataRequest

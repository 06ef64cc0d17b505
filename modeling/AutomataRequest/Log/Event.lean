import AutomataRequest.Fault
import AutomataRequest.Number.Decimal

/-!
Log events. An event has a level, a target and fields in a fixed order; the events of a call
come in pairs that open and close it. A measured duration is not part of an event's value: it
is filled in where the event is written.
-/

namespace AutomataRequest.Log

inductive Level where
  | error
  | warn
  | info
  | debug
  | trace
  deriving DecidableEq, Repr

namespace Level

def label : Level → String
  | .error => "ERROR"
  | .warn => "WARN"
  | .info => "INFO"
  | .debug => "DEBUG"
  | .trace => "TRACE"

/-- The more a level lets through, the larger its rank. -/
def rank : Level → Nat
  | .error => 1
  | .warn => 2
  | .info => 3
  | .debug => 4
  | .trace => 5

end Level

/-- A text is quoted in plain lines and a shown value is not. -/
inductive Value where
  | text (value : String)
  | shown (value : String)
  | count (value : Nat)
  | elapsed
  deriving DecidableEq, Repr

/-- The value alone, with `elapsed` in place of a measured duration. -/
def Value.bare (elapsed : String) : Value → String
  | .text value => value
  | .shown value => value
  | .count value => Number.natText value
  | .elapsed => elapsed

structure Event where
  level : Level
  target : String
  message : Option String := none
  fields : List (String × Value) := []
  deriving DecidableEq, Repr

namespace Event

/-- Every field with its bare value; a message counts as the first field. -/
def bareFields (event : Event) (elapsed : String) : List (String × String) :=
  (match event.message with
    | some message => [("message", message)]
    | none => []) ++
  event.fields.map fun field => (field.1, field.2.bare elapsed)

def field? (event : Event) (elapsed name : String) : Option String :=
  (event.bareFields elapsed).lookup name

end Event

def componentField : String := "component"
def callField : String := "op"
def eventField : String := "event"
def durationField : String := "duration_ms"
def encodingField : String := "encoding"
def operationField : String := "operation"
def operandCountField : String := "operand_count"
def tokenCountField : String := "token_count"
def faultKindField : String := "err_kind"
def faultCodeField : String := "err_code"

def startEvent : String := "start"
def endEvent : String := "end"
def endErrorEvent : String := "end_error"

/-- An event about a call. A component is named by the calls of this library only. -/
def callEvent (level : Level) (component : Option String) (call event : String)
    (details : List (String × Value)) : Event :=
  { level
    target := component.getD ""
    fields :=
      (match component with
        | some component => [(componentField, .text component)]
        | none => []) ++
      [(callField, .text call), (eventField, .text event)] ++ details }

def started (component : Option String) (call : String)
    (details : List (String × Value)) : Event :=
  callEvent .debug component call startEvent details

def ended (component : Option String) (call : String) (duration : Value)
    (details : List (String × Value)) : Event :=
  callEvent .debug component call endEvent ((durationField, duration) :: details)

/-- A failure is logged with its kind and code and without its message. -/
def failed (component : Option String) (call : String) (duration : Value) (fault : Fault)
    (details : List (String × Value)) : Event :=
  callEvent .warn component call endErrorEvent
    ((durationField, duration) :: (faultKindField, .shown fault.kind.label) ::
      (faultCodeField, .text fault.report.code) :: details)

end AutomataRequest.Log

import AutomataRequest.CommandLine.Usage
import AutomataRequest.Lookup
import AutomataRequest.Output
import AutomataRequest.Tokens

/-!
Values given on one level of the command line. Every text becomes a value of its slot's type
as soon as it is known to be complete, and the flags that were given are kept in order.
-/

namespace AutomataRequest.CommandLine

structure Given where
  seen : List Flag := []
  config : Option String := none
  format : Option OutputFormat := none
  withProgram : Bool := false
  encoding : Option Encoding := none
  operation : Option Operation := none
  direction : Option Direction := none
  order : Option Order := none
  operands : List String := []
  file : Option String := none
  left : Option String := none
  right : Option String := none
  deriving DecidableEq, Repr

namespace Given

/-- The value of a text, or the fault of the slot that it was given for. -/
def checked {Value : Type} (slot : Slot) (text : String) (read : Except Fault Value) :
    Except UsageFault Value :=
  match read with
  | .ok value => .ok value
  | .error cause => .error (.invalidValue slot text cause)

/-- A path cannot be empty. -/
def checkedPath (slot : Slot) (text : String) : Except UsageFault String :=
  if text.isEmpty then .error (.missingValue slot) else .ok text

def checkedFormat (text : String) : Except UsageFault OutputFormat :=
  match OutputFormat.ofName? text with
  | some format => .ok format
  | none =>
      if text.isEmpty then .error (.missingValue (.ofFlag .format))
      else .error (.invalidFormat text)

def setFlag (given : Given) (flag : Flag) (text : String) : Except UsageFault Given :=
  let slot := Slot.ofFlag flag
  match flag with
  | .config => do return { given with config := some (← checkedPath slot text) }
  | .format => do return { given with format := some (← checkedFormat text) }
  | .withProgram => .ok { given with withProgram := true }
  | .help => .ok given
  | .encoding => do
      return { given with encoding := some (← checked slot text (Encoding.ofText text)) }
  | .direction => do
      return { given with direction := some (← checked slot text (Direction.ofText text)) }
  | .order => do
      return { given with order := some (← checked slot text (Order.ofText text)) }

/-- Gives a flag its value. That it was given before counts before what the value is. -/
def addFlag (given : Given) (flag : Flag) (text : String) : Except UsageFault Given := do
  if given.seen.contains flag then .error (.repeated flag)
  else
    let given ← given.setFlag flag text
    return { given with seen := given.seen ++ [flag] }

def addPlace (given : Given) (place : Place) (texts : List String) : Except UsageFault Given :=
  let slot := Slot.ofPlace place
  match place, texts with
  | .operands, texts => .ok { given with operands := given.operands ++ texts }
  | _, [] => .error (.missingValue slot)
  | .operation, text :: _ => do
      return { given with operation := some (← checked slot text (Operation.ofText text)) }
  | .file, text :: _ => do return { given with file := some (← checkedPath slot text) }
  | .left, text :: _ => .ok { given with left := some text }
  | .right, text :: _ => .ok { given with right := some text }

def options (given : Given) : Option Options :=
  match given.direction, given.order with
  | some direction, _ => some (.direction direction)
  | none, some order => some (.order order)
  | none, none => none

/-- Direction and order exclude each other; the one that came first is named first. -/
def conflict? (given : Given) : Option UsageFault :=
  match given.seen.filter fun flag => flag == .direction || flag == .order with
  | first :: second :: _ => some (.conflict first second)
  | _ => none

end Given

end AutomataRequest.CommandLine

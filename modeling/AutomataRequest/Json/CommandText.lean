import AutomataRequest.Command
import AutomataRequest.Fault
import AutomataRequest.Json.Reader
import AutomataRequest.Json.Text

/-!
Commands as JSON. A command is an object with the keys encoding, operation, options and
operands, of which the last two may be left out, or a list of the same values in that order.
Names are matched exactly; a key that is unknown or comes twice is refused where it stands.
-/

namespace AutomataRequest

namespace Json

inductive Field where
  | encoding
  | operation
  | options
  | operands
  deriving DecidableEq, Repr

namespace Field

def all : List Field := [.encoding, .operation, .options, .operands]

def name : Field → String
  | .encoding => "encoding"
  | .operation => "operation"
  | .options => "options"
  | .operands => "operands"

def ofName? (text : String) : Option Field := all.find? fun field => field.name == text

end Field

def readEncoding : Cursor → Except Failure (Encoding × Cursor) :=
  readName Encoding.all Encoding.name

def readOperation : Cursor → Except Failure (Operation × Cursor) :=
  readName Operation.all Operation.name

def readDirection : Cursor → Except Failure (Direction × Cursor) :=
  readName Direction.all Direction.name

def readOrder : Cursor → Except Failure (Order × Cursor) :=
  readName Order.all Order.name

/-- Options are an object whose only key is their kind. The name of a kind alone is refused
without a position of its own. -/
def readOptions : Cursor → Except Failure (Options × Cursor) :=
  readVariant OptionsKind.all OptionsKind.name
    (fun kind cursor => match kind with
      | .direction => do
          let (direction, cursor) ← readDirection cursor
          return (.direction direction, cursor)
      | .order => do
          let (order, cursor) ← readOrder cursor
          return (.order order, cursor))
    (fun _ cursor => .error (.unplaced (.mismatch (.wrongType .unitVariant "newtype variant"))
      cursor))

structure Draft where
  encoding : Option Encoding := none
  operation : Option Operation := none
  options : Option (Option Options) := none
  operands : Option (List String) := none

namespace Draft

def openCount (draft : Draft) : Nat :=
  (if draft.encoding.isNone then 1 else 0) + (if draft.operation.isNone then 1 else 0) +
    (if draft.options.isNone then 1 else 0) + (if draft.operands.isNone then 1 else 0)

/-- A command has an encoding and an operation. -/
def toCommand (draft : Draft) : Except Mismatch Command :=
  match draft.encoding with
  | none => .error (.missingField Field.encoding.name)
  | some encoding =>
      match draft.operation with
      | none => .error (.missingField Field.operation.name)
      | some operation =>
          .ok { encoding, operation
                options := draft.options.getD none
                operands := draft.operands.getD [] }

end Draft

def readMember {Value : Type} (read : Cursor → Except Failure (Value × Cursor))
    (cursor : Cursor) : Except Failure (Value × Cursor) := do
  read (← readColon cursor)

/-- Reads the members of a command up to the closing brace. No key comes twice, so every
member that is read leaves fewer to come. -/
def readMembers (draft : Draft) (isFirst : Bool) (cursor : Cursor) :
    Except Failure (Draft × Cursor) :=
  match nextKey isFirst cursor with
  | .error failure => .error failure
  | .ok (none, cursor) => .ok (draft, cursor)
  | .ok (some key, cursor) =>
      match Field.ofName? key with
      | none => .error (.unplaced (.mismatch (.unknownField key (Field.all.map Field.name)))
          cursor)
      | some .encoding =>
          match _given : draft.encoding with
          | some _ => .error (.unplaced (.mismatch (.duplicateField key)) cursor)
          | none =>
              match readMember readEncoding cursor with
              | .error failure => .error failure
              | .ok (value, cursor) =>
                  readMembers { draft with encoding := some value } false cursor
      | some .operation =>
          match _given : draft.operation with
          | some _ => .error (.unplaced (.mismatch (.duplicateField key)) cursor)
          | none =>
              match readMember readOperation cursor with
              | .error failure => .error failure
              | .ok (value, cursor) =>
                  readMembers { draft with operation := some value } false cursor
      | some .options =>
          match _given : draft.options with
          | some _ => .error (.unplaced (.mismatch (.duplicateField key)) cursor)
          | none =>
              match readMember (readOptional readOptions) cursor with
              | .error failure => .error failure
              | .ok (value, cursor) =>
                  readMembers { draft with options := some value } false cursor
      | some .operands =>
          match _given : draft.operands with
          | some _ => .error (.unplaced (.mismatch (.duplicateField key)) cursor)
          | none =>
              match readMember readTexts cursor with
              | .error failure => .error failure
              | .ok (value, cursor) =>
                  readMembers { draft with operands := some value } false cursor
  termination_by draft.openCount
  decreasing_by all_goals simp_all [Draft.openCount]

def readCommandMembers (cursor : Cursor) : Except Failure (Command × Cursor) := do
  let (draft, cursor) ← readMembers {} true cursor
  match draft.toCommand with
  | .ok command => return (command, cursor)
  | .error mismatch => .error (.unplaced (.mismatch mismatch) cursor)

/-- Reads an element that has to be there, the one with the given number. -/
def readRequired {Value : Type} (number : Nat)
    (read : Cursor → Except Failure (Value × Cursor)) (cursor : Cursor) :
    Except Failure (Value × Cursor) := do
  match ← nextElement (number == 0) cursor with
  | some cursor => read cursor
  | none => .error (.unplaced
      (.mismatch (.tooFewElements number "struct Command with 4 elements")) cursor)

def readDefaulted {Value : Type} (missing : Value)
    (read : Cursor → Except Failure (Value × Cursor)) (cursor : Cursor) :
    Except Failure (Value × Cursor) := do
  match ← nextElement false cursor with
  | some cursor => read cursor
  | none => return (missing, cursor)

def readCommandElements (cursor : Cursor) : Except Failure (Command × Cursor) := do
  let (encoding, cursor) ← readRequired 0 readEncoding cursor
  let (operation, cursor) ← readRequired 1 readOperation cursor
  let (options, cursor) ← readDefaulted none (readOptional readOptions) cursor
  let (operands, cursor) ← readDefaulted [] readTexts cursor
  return ({ encoding, operation, options, operands }, cursor)

def readCommand (cursor : Cursor) : Except Failure (Command × Cursor) :=
  let cursor := cursor.skipSpaces
  match cursor.rest with
  | '{' :: _ => enclosed closeObject (readCommandMembers cursor.eat)
  | '[' :: _ => enclosed closeList (readCommandElements cursor.eat)
  | [] => .error (.next .endInValue cursor)
  | _ => .error (wrongType "struct Command" cursor)

end Json

/-- Reads a value of one of the request types from a whole JSON text. -/
def ofJsonWith {Value : Type}
    (read : Json.Cursor → Except Json.Failure (Value × Json.Cursor)) (text : String) :
    Except Fault Value :=
  match Json.readWhole read text with
  | .ok value => .ok value
  | .error failure => .error (.serialization failure.message)

namespace Encoding

def toJson (encoding : Encoding) : String := Json.encodeText encoding.name

def ofJson : String → Except Fault Encoding := ofJsonWith Json.readEncoding

end Encoding

namespace Operation

def toJson (operation : Operation) : String := Json.encodeText operation.name

def ofJson : String → Except Fault Operation := ofJsonWith Json.readOperation

end Operation

namespace Direction

def toJson (direction : Direction) : String := Json.encodeText direction.name

def ofJson : String → Except Fault Direction := ofJsonWith Json.readDirection

end Direction

namespace Order

def toJson (order : Order) : String := Json.encodeText order.name

def ofJson : String → Except Fault Order := ofJsonWith Json.readOrder

end Order

namespace Options

def toJson (options : Options) : String :=
  Json.encodeObject [(options.kind.name, Json.encodeText options.valueName)]

def ofJson : String → Except Fault Options := ofJsonWith Json.readOptions

end Options

namespace Command

/-- Absent options are left out; operands are always written. -/
def toJson (command : Command) : String :=
  Json.encodeObject
    ([("encoding", command.encoding.toJson), ("operation", command.operation.toJson)] ++
      (match command.options with
        | some options => [("options", options.toJson)]
        | none => []) ++
      [("operands", Json.encodeTexts command.operands)])

def ofJson : String → Except Fault Command := ofJsonWith Json.readCommand

end Command

end AutomataRequest

import AutomataRequest.Command
import AutomataRequest.Lookup

/-!
Argument tokens. A command becomes the list of arguments that the automata tool expects:

    -r <encoding> <operation> [-o <option>] <operand> ...

Each token is one argument, and operands are passed on as they are. `Command.ofTokens?` reads
the list back.
-/

namespace AutomataRequest

def encodingFlag : String := "-r"

def optionFlag : String := "-o"

def directionMark : String := "dir="

def orderMark : String := "order="

/-- The direction table of explicit finite automata, or the one of everything else. -/
def Direction.tokenFor (direction : Direction) (encoding : Encoding) : String :=
  if encoding.isExplicitFa then direction.automatonToken else direction.treeToken

namespace Operation

/-- The fault of options that are not of the kind the operation reads. -/
def optionsFault (operation : Operation) (expected : OptionsKind) : Option Options → Fault
  | none => .missingOptions operation.name expected.name
  | some options => .invalidOptionsShape operation.name expected.name options.kind.name

def directionOf (operation : Operation) : Option Options → Except Fault Direction
  | some (.direction direction) => .ok direction
  | given => .error (operation.optionsFault .direction given)

def orderOf (operation : Operation) : Option Options → Except Fault Order
  | some (.order order) => .ok order
  | given => .error (operation.optionsFault .order given)

/-- The argument of the option flag. Without an encoding the direction table is the one of
everything but finite automata. Inclusion writes an order under the mark of directions. -/
def optionToken (operation : Operation) (encoding : Option Encoding)
    (options : Option Options) : Except Fault (Option String) :=
  match operation with
  | .simulation => do
      let direction ← operation.directionOf options
      let value := match encoding with
        | some encoding => direction.tokenFor encoding
        | none => direction.treeToken
      return some (directionMark ++ value)
  | .reduction => do
      let direction ← operation.directionOf options
      return some (directionMark ++ direction.treeToken)
  | .equivalence => do
      let order ← operation.orderOf options
      return some (orderMark ++ order.token)
  | .inclusion => do
      let order ← operation.orderOf options
      return some (directionMark ++ order.token)
  | .load | .witness | .complement | .union | .intersection =>
      match options with
      | none => .ok none
      | some options =>
          .error (.invalidOptionsShape operation.name "no" options.kind.name)

def optionTokens (operation : Operation) (encoding : Option Encoding)
    (options : Option Options) : Except Fault (List String) := do
  match ← operation.optionToken encoding options with
  | some token => return [optionFlag, token]
  | none => return []

def tokens (operation : Operation) : List String := [operation.token]

end Operation

def Encoding.tokens (encoding : Encoding) : List String := [encodingFlag, encoding.token]

def operandTokens (operands : List String) : List String := operands

def Command.tokens (command : Command) : Except Fault (List String) := do
  let option ← command.operation.optionTokens (some command.encoding) command.options
  return command.encoding.tokens ++ command.operation.tokens ++ option ++
    operandTokens command.operands

/-- A request with two operands whose encoding is left to the tool. -/
structure PairRequest where
  operation : Operation
  options : Option Options := none
  left : String
  right : String
  deriving DecidableEq, Repr

def PairRequest.tokens (request : PairRequest) : Except Fault (List String) := do
  let option ← request.operation.optionTokens none request.options
  return request.operation.tokens ++ option ++ operandTokens [request.left, request.right]

/-- The first two operands of a command, empty where there is none, without its encoding. -/
def Command.pairRequest (command : Command) : PairRequest :=
  { operation := command.operation
    options := command.options
    left := command.operands.headD ""
    right := command.operands.tail.headD "" }

/-- The text after the first equals sign. -/
def optionValue (token : String) : String :=
  String.ofList ((token.toList.dropWhile (· ≠ '=')).drop 1)

def Options.ofValue? (kind : OptionsKind) (value : String) : Option Options :=
  match kind with
  | .direction => (Direction.ofText value).toOption.map .direction
  | .order => (Order.ofText value).toOption.map .order

/-- Reads a command from its tokens by the spellings of its parts: the operation says whether
an option comes before the operands, and of which kind it is. -/
def Command.ofTokens? : List String → Option Command
  | _ :: encoding :: operation :: rest => do
      let encoding ← (Encoding.ofText encoding).toOption
      let operation ← (Operation.ofText operation).toOption
      match operation.optionsKind?, rest with
      | none, operands => some { encoding, operation, operands }
      | some kind, _ :: option :: operands =>
          let options ← Options.ofValue? kind (optionValue option)
          some { encoding, operation, options := some options, operands }
      | some _, _ => none
  | _ => none

end AutomataRequest

import AutomataRequest.Log.Event
import AutomataRequest.Tokens

/-!
Logged calls. Turning a request into tokens emits two events, one before and one after, which
describe the request without its operands and agree with the result.
-/

namespace AutomataRequest

/-- A result together with the events that were emitted on the way to it. -/
structure Logged (Result : Type) where
  result : Result
  events : List Log.Event

namespace Log

def tokensComponent : String := "autcmd_core::serializer"

def commandCall : String := "serialize_command"

def pairCall : String := "serialize_command_with_options"

/-- The two events of a call whose result is known. -/
def bracket (call : String) (details : List (String × Value))
    (result : Except Fault (List String)) : Logged (Except Fault (List String)) :=
  { result
    events :=
      [ started (some tokensComponent) call details,
        match result with
        | .ok tokens =>
            ended (some tokensComponent) call .elapsed [(tokenCountField, .count tokens.length)]
        | .error fault => failed (some tokensComponent) call .elapsed fault [] ] }

end Log

def Command.serialize (command : Command) : Logged (Except Fault (List String)) :=
  Log.bracket Log.commandCall
    [ (Log.encodingField, .text command.encoding.token),
      (Log.operationField, .text command.operation.token),
      (Log.operandCountField, .count command.operands.length) ]
    command.tokens

def PairRequest.serialize (request : PairRequest) : Logged (Except Fault (List String)) :=
  Log.bracket Log.pairCall [(Log.operationField, .text request.operation.token)] request.tokens

theorem pair_serialize_result (request : PairRequest) :
    request.serialize.result = request.tokens := rfl

end AutomataRequest

import AutomataRequest.Encoding
import AutomataRequest.Operation
import AutomataRequest.Text.Quoted

/-!
A command: one request to the automata tool. Its options may be of the wrong kind for its
operation; turning the command into tokens is what notices.
-/

namespace AutomataRequest

structure Command where
  encoding : Encoding
  operation : Operation
  options : Option Options := none
  operands : List String := []
  deriving DecidableEq, Repr

namespace Command

def withOptions (command : Command) (options : Options) : Command :=
  { command with options := some options }

def withDirection (command : Command) (direction : Direction) : Command :=
  command.withOptions (.direction direction)

def withOrder (command : Command) (order : Order) : Command :=
  command.withOptions (.order order)

def withoutOptions (command : Command) : Command :=
  { command with options := none }

def pushOperand (command : Command) (operand : String) : Command :=
  { command with operands := command.operands ++ [operand] }

def popOperand (command : Command) : Command :=
  { command with operands := command.operands.dropLast }

/-- The command with all its parts on one line, as log lines show it. -/
def label (command : Command) : String :=
  "Command \x7b encoding: " ++ command.encoding.label ++
    ", operation: " ++ command.operation.label ++
    ", options: " ++ (match command.options with
      | some options => "Some(" ++ options.label ++ ")"
      | none => "None") ++
    ", operands: " ++ Text.quoteList command.operands ++ " \x7d"

end Command

end AutomataRequest

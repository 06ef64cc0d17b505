import AutomataRequest.CommandLine.Flag
import AutomataRequest.Fault
import AutomataRequest.Text.Visible

/-!
Command lines that are not run. What was given at fault is repeated in the message, and marks
set it off from the rest. The texts are not whole: a fault is told by its first line and the hint
at the help, without the arguments that are missing, tips, and the usage in between.
-/

namespace AutomataRequest.CommandLine

/-- The name under which the program is started. -/
def programName : String := "autcmd-cli"

/-- Why a command line is not accepted. -/
inductive UsageFault where
  | missingValue (slot : Slot)
  | invalidFormat (text : String)
  | invalidValue (slot : Slot) (text : String) (cause : Fault)
  | unexpectedArgument (text : String)
  | unexpectedValue (text : String) (flag : Flag)
  | repeated (flag : Flag)
  | conflict (first second : Flag)
  | missingArguments
  | missingSubcommand
  | unknownSubcommand (text : String)
  deriving DecidableEq, Repr

namespace UsageFault

open Text (Piece)

def message : UsageFault → List Piece
  | .missingValue slot =>
      [.plain "a value is required for '", .marked slot.shown, .plain "' but none was supplied"]
  | .invalidFormat text =>
      [.plain "invalid value '", .marked text, .plain "' for '", .marked Flag.format.shown,
        .plain "'"]
  | .invalidValue slot text cause =>
      [.plain "invalid value '", .marked text, .plain "' for '", .marked slot.shown, .plain "': ",
        .plain cause.message]
  | .unexpectedArgument text =>
      [.plain "unexpected argument '", .marked text, .plain "' found"]
  | .unexpectedValue text flag =>
      [.plain "unexpected value '", .marked text, .plain "' for '", .marked flag.shown,
        .plain "' found; no more were expected"]
  | .repeated flag =>
      [.plain "the argument '", .marked flag.shown, .plain "' cannot be used multiple times"]
  | .conflict first second =>
      [.plain "the argument '", .marked first.shown, .plain "' cannot be used with '",
        .marked second.shown, .plain "'"]
  | .missingArguments => [.plain "the following required arguments were not provided:"]
  | .missingSubcommand =>
      [.plain "'", .marked programName,
        .plain "' requires a subcommand but one was not provided"]
  | .unknownSubcommand text => [.plain "unrecognized subcommand '", .marked text, .plain "'"]

/-- The message between the word for an error and a hint at the help. Behind the first line the
program also lists missing arguments, gives tips on similar names, and prints the usage; all of
this is left out. -/
def pieces (fault : UsageFault) : List Piece :=
  [.marked "error:", .plain " "] ++ fault.message ++
    [.plain "\n\nFor more information, try '", .marked "--help", .plain "'.\n"]

/-- What is shown of a fault. A sequence that is open at the end of the message may take the
hint in, up to the next mark. -/
def text (fault : UsageFault) : String := Text.visible fault.pieces

end UsageFault

/-- What the program says of itself when it is asked. The help of a subcommand is left out, and
the help of the program stands for it. -/
def helpText : String :=
  "Render automata-tool requests as command-line tokens\n\n" ++
    "Usage: " ++ programName ++ " [OPTIONS] <COMMAND>\n\n" ++
    "Commands:\n" ++
    "  render  Render a request described by flags\n" ++
    "  json    Render a request read from a JSON file\n" ++
    "  pair    Render a two-operand request without the encoding pair\n" ++
    "  help    Print this message or the help of the given subcommand(s)\n\n" ++
    "Options:\n" ++
    "      --config <CONFIG>  Tool configuration file (TOML)\n" ++
    "      --format <FORMAT>  How to print the tokens [default: lines]\n" ++
    "      --with-program     Prepend the configured program name\n" ++
    "  -h, --help             Print help\n"

/-- A command line that is not run: it asks for help, it is empty, or it is at fault. -/
inductive Rejection where
  | helpAsked
  | helpNeeded
  | usage (fault : UsageFault)
  deriving DecidableEq, Repr

end AutomataRequest.CommandLine

import AutomataRequest.Json.Text
import AutomataRequest.Text.ShellWords

/-!
Printed tokens: one to a line, as a JSON array, or as the words of a shell command. Every
format ends with a newline.
-/

namespace AutomataRequest

inductive OutputFormat where
  | lines
  | json
  | shell
  deriving DecidableEq, Repr

namespace OutputFormat

def all : List OutputFormat := [.lines, .json, .shell]

def name : OutputFormat → String
  | .lines => "lines"
  | .json => "json"
  | .shell => "shell"

/-- A format is named exactly, in lower case. -/
def ofName? (text : String) : Option OutputFormat :=
  all.find? fun format => format.name == text

def body (format : OutputFormat) (tokens : List String) : String :=
  match format with
  | .lines => "\n".intercalate tokens
  | .json => Json.encodeTexts tokens
  | .shell => " ".intercalate (tokens.map Text.quoteWord)

def render (format : OutputFormat) (tokens : List String) : String :=
  format.body tokens ++ "\n"

end OutputFormat

end AutomataRequest

import AutomataRequest.Files
import AutomataRequest.Log.Call
import AutomataRequest.Log.Filter
import AutomataRequest.Log.Line
import AutomataRequest.Text.Blank
import AutomataRequest.Toml.Document
import AutomataRequest.Toml.Fit

/-!
Configurations. A configuration file names the automata tool's program and the profile of the
log; it is a TOML document in which everything may be left out.
-/

namespace AutomataRequest

/-- How a run logs: for a reader, for a program, or not at all. -/
inductive Profile where
  | development
  | production
  | test
  deriving DecidableEq, Repr

namespace Profile

def all : List Profile := [.development, .production, .test]

def name : Profile → String
  | .development => "development"
  | .production => "production"
  | .test => "test"

def label : Profile → String
  | .development => "Development"
  | .production => "Production"
  | .test => "Test"

def lineStyle? : Profile → Option Log.LineStyle
  | .development => some .plain
  | .production => some .json
  | .test => none

/-- The filter of a run that sets none. -/
def defaultFilter : Profile → Log.Filter
  | .development => [{ target := some "autcmd", level := some .debug }]
  | .production | .test => [{ target := some "autcmd", level := some .info }]

end Profile

def defaultProgram : String := "vata"

structure Config where
  program : String := defaultProgram
  profile : Option Profile := none
  deriving DecidableEq, Repr

inductive ConfigFault where
  | malformed
  | misfit (cause : Toml.Misfit) (text : String)
  | blankProgram
  deriving DecidableEq, Repr

namespace ConfigFault

/-- A document that is no TOML has one text, whatever is wrong with it: the place and the reason
that a parser gives are left out. -/
def message : ConfigFault → String
  | .malformed => "TOML parse error\n"
  | .misfit cause text => cause.message text
  | .blankProgram => "tool.program must not be empty"

def fault (configFault : ConfigFault) : Fault := .invalidConfig configFault.message

end ConfigFault

namespace Config

def toolFields : List (Toml.Field Config) :=
  [⟨"program", fun config node => do return { config with program := ← node.fitText }⟩]

def loggingFields : List (Toml.Field Config) :=
  [⟨"profile", fun config node => do
    return { config with profile := some (← node.fitChoice Profile.all Profile.name) }⟩]

def sections : List (Toml.Field Config) :=
  [⟨"tool", Toml.Field.fitStructure "struct ToolSection" toolFields⟩,
    ⟨"logging", Toml.Field.fitStructure "struct LoggingSection" loggingFields⟩]

/-- The configuration that a document holds, if its program may be blank. -/
def ofEntries (entries : Toml.Entries) : Toml.Fit Config :=
  Toml.Field.fitEntries sections {} entries

/-- Reads a configuration. Whether the program is blank matters only once all else fits. -/
def ofText (text : String) : Except ConfigFault Config :=
  match Toml.readDocument text with
  | none => .error .malformed
  | some entries =>
      match ofEntries entries with
      | .error misfit => .error (.misfit misfit text)
      | .ok config => if Text.isAllBlank config.program then .error .blankProgram else .ok config

/-- The tokens of a command after the program that takes them. -/
def argv (config : Config) (command : Command) : Except Fault (List String) := do
  return config.program :: (← command.tokens)

end Config

/-- Why a configuration file cannot be loaded. -/
inductive LoadFault where
  | unreadable (cause : ReadFault)
  | invalid (cause : ConfigFault)
  deriving DecidableEq, Repr

def LoadFault.fault : LoadFault → Fault
  | .unreadable cause => .io cause.message
  | .invalid cause => cause.fault

namespace Config

def loadTarget : String := "autcmd_core::config"

/-- A file that could be read is logged, whether or not it is a configuration. -/
def loadEvent (path : String) : Log.Event :=
  { level := .debug
    target := loadTarget
    message := some "loaded tool configuration"
    fields := [("path", .shown path)] }

def load (files : FileReader) (path : String) : Logged (Except LoadFault Config) :=
  match files.readText path with
  | .error cause => ⟨.error (.unreadable cause), []⟩
  | .ok text =>
      ⟨match ofText text with
        | .ok config => .ok config
        | .error cause => .error (.invalid cause), [loadEvent path]⟩

end Config

end AutomataRequest

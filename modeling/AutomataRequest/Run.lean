import AutomataRequest.CommandLine.Parse
import AutomataRequest.Config
import AutomataRequest.Json.CommandText
import AutomataRequest.Log.Recorder

/-!
A run of the program: a command line becomes an exit status, two texts and log lines. The
configuration is loaded first, the request is turned into tokens next, and nothing is printed
unless both succeed.
-/

namespace AutomataRequest

structure Surroundings where
  files : FileReader
  /-- The bytes of the standard input. -/
  input : ByteArray
  /-- The directives of the log filter, if any are set. -/
  logVariable : Option String

inductive RunFault where
  | config (cause : LoadFault)
  | unreadable (cause : ReadFault)
  | request (cause : Fault)
  deriving DecidableEq, Repr

/-- A file that a request is read from is not named as the place of the fault. -/
def RunFault.message : RunFault → String
  | .config cause => cause.fault.message
  | .unreadable cause => cause.message
  | .request cause => cause.message

/-- The file name that stands for the standard input. -/
def inputName : String := "-"

def Surroundings.readText (surroundings : Surroundings) (file : String) :
    Except ReadFault String :=
  if file = inputName then decodeText surroundings.input
  else surroundings.files.readText file

namespace CommandLine

def renderTarget : String := "autcmd_cli::commands::render"

/-- A request from flags is logged before it is turned into tokens. -/
def renderEvent (command : Command) : Log.Event :=
  { level := .debug
    target := renderTarget
    message := some "rendering command from flags"
    fields := [("command", .shown command.label)] }

def Request.answer (surroundings : Surroundings) :
    Request → Logged (Except RunFault (List String))
  | .render command =>
      let answer := command.serialize
      ⟨answer.result.mapError .request, renderEvent command :: answer.events⟩
  | .json file =>
      match surroundings.readText file with
      | .error cause => ⟨.error (.unreadable cause), []⟩
      | .ok text =>
          match Command.ofJson text with
          | .error cause => ⟨.error (.request cause), []⟩
          | .ok command =>
              let answer := command.serialize
              ⟨answer.result.mapError .request, answer.events⟩
  | .pair request =>
      let answer := request.serialize
      ⟨answer.result.mapError .request, answer.events⟩

namespace Invocation

/-- The configuration of a run that names no file is the default one. -/
def loadConfig (invocation : Invocation) (files : FileReader) : Except RunFault Config :=
  match invocation.config with
  | none => .ok {}
  | some path => (Config.load files path).result.mapError .config

def output (invocation : Invocation) (config : Config) (tokens : List String) : String :=
  invocation.format.render
    (if invocation.withProgram then config.program :: tokens else tokens)

end Invocation

end CommandLine

/-- The log of a run: the profile of the configuration, or the first profile if directives are
set. Directives that cannot be read are passed over for the filter of the profile. -/
def Config.recorder? (config : Config) (logVariable : Option String) : Option Log.Recorder := do
  let profile ← config.profile.orElse fun _ => logVariable.map fun _ => .development
  let style ← profile.lineStyle?
  some ⟨style, (logVariable.bind Log.Filter.ofText?).getD profile.defaultFilter⟩

/-- What a run leaves behind. -/
structure Outcome where
  status : Nat
  out : String := ""
  err : String := ""
  log : List Log.Line := []
  deriving DecidableEq, Repr

namespace Outcome

def printed (text : String) : Outcome := { status := 0, out := text }

def failed (fault : RunFault) : Outcome :=
  { status := 1, err := "Error: " ++ fault.message ++ "\n" }

def rejected : CommandLine.Rejection → Outcome
  | .helpAsked => printed CommandLine.helpText
  | .helpNeeded => { status := 2, err := CommandLine.helpText }
  | .usage fault => { status := 2, err := fault.text }

end Outcome

namespace CommandLine.Invocation

/-- Nothing that is emitted before the configuration is known can be logged. -/
def run (surroundings : Surroundings) (invocation : Invocation) : Outcome :=
  match invocation.loadConfig surroundings.files with
  | .error fault => .failed fault
  | .ok config =>
      let answer := invocation.request.answer surroundings
      let outcome := match answer.result with
        | .ok tokens => Outcome.printed (invocation.output config tokens)
        | .error fault => Outcome.failed fault
      let log := match config.recorder? surroundings.logVariable with
        | some recorder => recorder.lines answer.events
        | none => []
      { outcome with log }

def paths (invocation : Invocation) : List String :=
  invocation.config.toList ++
    match invocation.request with
    | .json file => [file]
    | .render _ | .pair _ => []

end CommandLine.Invocation

def run (surroundings : Surroundings) (args : List String) : Outcome :=
  match CommandLine.parse args with
  | .ok invocation => invocation.run surroundings
  | .error rejection => .rejected rejection

end AutomataRequest

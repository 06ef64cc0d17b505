import AutomataRequest.Log.Session
import AutomataRequest.Proofs.CommandLine.ProgramFlag
import AutomataRequest.Run

/-!
# The stages of a run

A run loads its configuration, comes to a call and makes it, and each of these may fail. What is
printed depends on all of them at once: either every stage succeeds and the tokens are printed, or
the first stage that fails is reported and nothing else is.
-/

namespace AutomataRequest

open CommandLine (Invocation Request)

/-- A run has the default configuration or what the file it names holds. -/
inductive LoadsConfig (files : FileReader) : Option String → Config → Prop
  | byDefault : LoadsConfig files none {}
  | fromFile {path text : String} {config : Config} (isRead : files.readText path = .ok text)
      (isParsed : Config.ofText text = .ok config) : LoadsConfig files (some path) config

/-- The call that a request comes down to. -/
inductive ComesToCall (surroundings : Surroundings) : Request → Call → Prop
  | render (command : Command) : ComesToCall surroundings (.render command) (.command command)
  | json {file text : String} {command : Command}
      (isRead : surroundings.readText file = .ok text)
      (isParsed : Command.ofJson text = .ok command) :
      ComesToCall surroundings (.json file) (.command command)
  | pair (request : PairRequest) : ComesToCall surroundings (.pair request) (.pair request)

inductive Stage where
  | readConfig
  | parseConfig
  | readCommand
  | parseCommand
  | serialize
  deriving DecidableEq, Repr

/-- Every stage of a run succeeds. -/
structure Succeeds (surroundings : Surroundings) (invocation : Invocation) (config : Config)
    (call : Call) (tokens : List String) : Prop where
  loaded : LoadsConfig surroundings.files invocation.config config
  called : ComesToCall surroundings invocation.request call
  answered : call.tokens = .ok tokens

/-- A stage of a run fails, and all stages before it succeed. -/
inductive FailsFirst (surroundings : Surroundings) (invocation : Invocation) :
    Stage → RunFault → Prop
  | readConfig {path : String} {cause : ReadFault} (isNamed : invocation.config = some path)
      (unreadable : surroundings.files.readText path = .error cause) :
      FailsFirst surroundings invocation .readConfig (.config (.unreadable cause))
  | parseConfig {path text : String} {cause : ConfigFault}
      (isNamed : invocation.config = some path)
      (isRead : surroundings.files.readText path = .ok text)
      (invalid : Config.ofText text = .error cause) :
      FailsFirst surroundings invocation .parseConfig (.config (.invalid cause))
  | readCommand {config : Config} {file : String} {cause : ReadFault}
      (loaded : LoadsConfig surroundings.files invocation.config config)
      (isNamed : invocation.request = .json file)
      (unreadable : surroundings.readText file = .error cause) :
      FailsFirst surroundings invocation .readCommand (.unreadable cause)
  | parseCommand {config : Config} {file text : String} {cause : Fault}
      (loaded : LoadsConfig surroundings.files invocation.config config)
      (isNamed : invocation.request = .json file)
      (isRead : surroundings.readText file = .ok text)
      (invalid : Command.ofJson text = .error cause) :
      FailsFirst surroundings invocation .parseCommand (.request cause)
  | serialize {config : Config} {call : Call} {cause : Fault}
      (loaded : LoadsConfig surroundings.files invocation.config config)
      (called : ComesToCall surroundings invocation.request call)
      (refused : call.tokens = .error cause) :
      FailsFirst surroundings invocation .serialize (.request cause)

section

variable {surroundings : Surroundings} {invocation : Invocation}

theorem run_of_accepted {args : List String} (accepted : CommandLine.parse args = .ok invocation) :
    run surroundings args = invocation.run surroundings := by
  simp only [run, accepted]

theorem load_config_of_loads {config : Config}
    (loaded : LoadsConfig surroundings.files invocation.config config) :
    invocation.loadConfig surroundings.files = .ok config := by
  unfold Invocation.loadConfig
  generalize invocation.config = path at loaded
  cases loaded with
  | byDefault => rfl
  | fromFile isRead isParsed =>
      simp only [Config.load, isRead, isParsed]
      rfl

theorem answer_of_call {request : Request} {call : Call}
    (called : ComesToCall surroundings request call) :
    (request.answer surroundings).result = call.tokens.mapError .request := by
  cases called with
  | render command => rfl
  | json isRead isParsed =>
      simp only [Request.answer, isRead, isParsed]
      rfl
  | pair request => rfl

/-! Progress. -/

theorem loads_or_fails (surroundings : Surroundings) (invocation : Invocation) :
    (∃ config, LoadsConfig surroundings.files invocation.config config) ∨
      ∃ stage fault, FailsFirst surroundings invocation stage fault := by
  cases named : invocation.config with
  | none => exact .inl ⟨{}, .byDefault⟩
  | some path =>
      cases isRead : surroundings.files.readText path with
      | error cause => exact .inr ⟨_, _, .readConfig named isRead⟩
      | ok text =>
          cases parsed : Config.ofText text with
          | error cause => exact .inr ⟨_, _, .parseConfig named isRead parsed⟩
          | ok config => exact .inl ⟨config, .fromFile isRead parsed⟩

theorem comes_to_call_or_fails {config : Config}
    (loaded : LoadsConfig surroundings.files invocation.config config) :
    (∃ call, ComesToCall surroundings invocation.request call) ∨
      ∃ stage fault, FailsFirst surroundings invocation stage fault := by
  cases asked : invocation.request with
  | render command => exact .inl ⟨_, .render command⟩
  | pair request => exact .inl ⟨_, .pair request⟩
  | json file =>
      cases isRead : surroundings.readText file with
      | error cause => exact .inr ⟨_, _, .readCommand loaded asked isRead⟩
      | ok text =>
          cases parsed : Command.ofJson text with
          | error cause => exact .inr ⟨_, _, .parseCommand loaded asked isRead parsed⟩
          | ok command => exact .inl ⟨_, .json isRead parsed⟩

theorem succeeds_or_fails (surroundings : Surroundings) (invocation : Invocation) :
    (∃ config call tokens, Succeeds surroundings invocation config call tokens) ∨
      ∃ stage fault, FailsFirst surroundings invocation stage fault := by
  rcases loads_or_fails surroundings invocation with ⟨config, loaded⟩ | failed
  · rcases comes_to_call_or_fails loaded with ⟨call, called⟩ | failed
    · cases answer : call.tokens with
      | error cause => exact .inr ⟨_, _, .serialize loaded called answer⟩
      | ok tokens => exact .inl ⟨config, call, tokens, loaded, called, answer⟩
    · exact .inr failed
  · exact .inr failed

/-! What is left behind. -/

/-- The run ends well and leaves a text. -/
structure Outcome.Prints (outcome : Outcome) (text : String) : Prop where
  status : outcome.status = 0
  out : outcome.out = text
  err : outcome.err = ""

/-- The run ends badly and leaves nothing but the message of a fault. -/
structure Outcome.Reports (outcome : Outcome) (fault : RunFault) : Prop where
  status : outcome.status = 1
  out : outcome.out = ""
  err : outcome.err = "Error: " ++ fault.message ++ "\n"

/-- The end of a run whose configuration is known, log lines apart. -/
def CommandLine.Invocation.ending (invocation : Invocation) (config : Config) :
    Except RunFault (List String) → Outcome
  | .ok tokens => .printed (invocation.output config tokens)
  | .error fault => .failed fault

theorem run_of_load_fault {fault : RunFault}
    (fails : invocation.loadConfig surroundings.files = .error fault) :
    invocation.run surroundings = .failed fault := by
  simp only [Invocation.run, fails]

/-- The recorder adds log lines and nothing else, and none unless there are events. -/
theorem run_of_loaded {config : Config}
    (loads : invocation.loadConfig surroundings.files = .ok config) :
    ∃ log, invocation.run surroundings =
        { invocation.ending config (invocation.request.answer surroundings).result with log } ∧
      ((invocation.request.answer surroundings).events = [] → log = []) := by
  refine ⟨(invocation.run surroundings).log, ?_, ?_⟩
  · simp only [Invocation.run, loads]
    cases (invocation.request.answer surroundings).result with
    | ok tokens => rfl
    | error fault => rfl
  · intro silent
    simp only [Invocation.run, loads, silent]
    cases config.recorder? surroundings.logVariable with
    | none => rfl
    | some recorder => rfl

theorem run_of_succeeds {config : Config} {call : Call} {tokens : List String}
    (succeeds : Succeeds surroundings invocation config call tokens) :
    (invocation.run surroundings).Prints (invocation.output config tokens) := by
  obtain ⟨log, runs, -⟩ := run_of_loaded (load_config_of_loads succeeds.loaded)
  have answers := answer_of_call succeeds.called
  rw [succeeds.answered] at answers
  rw [runs, answers]
  exact ⟨rfl, rfl, rfl⟩

theorem reports_load_fault {fault : RunFault}
    (fails : invocation.loadConfig surroundings.files = .error fault) :
    (invocation.run surroundings).Reports fault ∧ (invocation.run surroundings).log = [] := by
  rw [run_of_load_fault fails]
  exact ⟨⟨rfl, rfl, rfl⟩, rfl⟩

theorem reports_answer_fault {config : Config} {fault : RunFault}
    (loaded : LoadsConfig surroundings.files invocation.config config)
    (fails : (invocation.request.answer surroundings).result = .error fault) :
    (invocation.run surroundings).Reports fault ∧
      ((invocation.request.answer surroundings).events = [] →
        (invocation.run surroundings).log = []) := by
  obtain ⟨log, runs, silent⟩ := run_of_loaded (load_config_of_loads loaded)
  rw [runs, fails]
  exact ⟨⟨rfl, rfl, rfl⟩, silent⟩

theorem run_of_fails_first {stage : Stage} {fault : RunFault}
    (fails : FailsFirst surroundings invocation stage fault) :
    (invocation.run surroundings).Reports fault ∧
      (stage ≠ .serialize → (invocation.run surroundings).log = []) := by
  cases fails with
  | @readConfig path cause isNamed unreadable =>
      have noConfig :
          invocation.loadConfig surroundings.files = .error (.config (.unreadable cause)) := by
        simp only [Invocation.loadConfig, isNamed, Config.load, unreadable]
        rfl
      obtain ⟨reports, silent⟩ := reports_load_fault noConfig
      exact ⟨reports, fun _ => silent⟩
  | @parseConfig path text cause isNamed isRead invalid =>
      have noConfig :
          invocation.loadConfig surroundings.files = .error (.config (.invalid cause)) := by
        simp only [Invocation.loadConfig, isNamed, Config.load, isRead, invalid]
        rfl
      obtain ⟨reports, silent⟩ := reports_load_fault noConfig
      exact ⟨reports, fun _ => silent⟩
  | @readCommand config file cause loaded isNamed unreadable =>
      have answer : invocation.request.answer surroundings = ⟨.error (.unreadable cause), []⟩ := by
        simp only [isNamed, Request.answer, unreadable]
      obtain ⟨reports, silent⟩ := reports_answer_fault loaded (by rw [answer])
      exact ⟨reports, fun _ => silent (by rw [answer])⟩
  | @parseCommand config file text cause loaded isNamed isRead invalid =>
      have answer : invocation.request.answer surroundings = ⟨.error (.request cause), []⟩ := by
        simp only [isNamed, Request.answer, isRead, invalid]
      obtain ⟨reports, silent⟩ := reports_answer_fault loaded (by rw [answer])
      exact ⟨reports, fun _ => silent (by rw [answer])⟩
  | serialize loaded called refused =>
      have answer := answer_of_call called
      rw [refused] at answer
      exact ⟨(reports_answer_fault loaded answer).1, fun other => absurd rfl other⟩

end

/-- A command line that is accepted either prints the tokens, when every stage of its run
succeeds, or reports the first stage that fails and prints nothing. -/
theorem run_prints_all_or_nothing (surroundings : Surroundings) {args : List String}
    {invocation : Invocation} (accepted : CommandLine.parse args = .ok invocation) :
    let outcome := run surroundings args
    (outcome.status = 0 ∨ outcome.status = 1) ∧
    (outcome.status = 0 ↔
      ∃ config call tokens, Succeeds surroundings invocation config call tokens) ∧
    (outcome.status = 1 ↔ ∃ stage fault, FailsFirst surroundings invocation stage fault) ∧
    (∀ config call tokens, Succeeds surroundings invocation config call tokens →
      outcome.Prints (invocation.format.render
        (if CommandLine.givesProgram args then config.program :: tokens else tokens))) ∧
    ∀ stage fault, FailsFirst surroundings invocation stage fault →
      outcome.Reports fault ∧ (stage ≠ .serialize → outcome.log = []) := by
  intro outcome
  have isRun : outcome = invocation.run surroundings := by
    simp only [outcome, run, accepted]
  rw [isRun, ← CommandLine.parse_program accepted]
  have ends := succeeds_or_fails surroundings invocation
  refine ⟨?_, ?_, ?_, ?_, ?_⟩
  · rcases ends with ⟨config, call, tokens, succeeds⟩ | ⟨stage, fault, fails⟩
    · exact .inl (run_of_succeeds succeeds).status
    · exact .inr (run_of_fails_first fails).1.status
  · constructor
    · intro endsWell
      apply ends.resolve_right
      rintro ⟨stage, fault, fails⟩
      rw [(run_of_fails_first fails).1.status] at endsWell
      cases endsWell
    · rintro ⟨config, call, tokens, succeeds⟩
      exact (run_of_succeeds succeeds).status
  · constructor
    · intro endsBadly
      apply ends.resolve_left
      rintro ⟨config, call, tokens, succeeds⟩
      rw [(run_of_succeeds succeeds).status] at endsBadly
      cases endsBadly
    · rintro ⟨stage, fault, fails⟩
      exact (run_of_fails_first fails).1.status
  · intro config call tokens succeeds
    exact run_of_succeeds succeeds
  · intro stage fault fails
    exact run_of_fails_first fails

/-- Nothing can be read, and everything would be logged. -/
def emptySurroundings : Surroundings :=
  { files := fun _ => .error .missing
    input := ByteArray.empty
    logVariable := some "trace" }

def twiceAbsent : Invocation :=
  { config := some "absent.toml"
    format := .lines
    withProgram := true
    request := .json "absent.json" }

/-- Of two files that are missing the configuration is reported. -/
theorem missing_config_comes_first :
    CommandLine.parse ["--config", "absent.toml", "json", "absent.json", "--with-program"] =
      .ok twiceAbsent ∧
    (run emptySurroundings
      ["--config", "absent.toml", "json", "absent.json", "--with-program"]).err =
      "Error: I/O error: No such file or directory (os error 2)\n" := by
  have accepted : CommandLine.parse
      ["--config", "absent.toml", "json", "absent.json", "--with-program"] =
      .ok twiceAbsent := rfl
  have fails : FailsFirst emptySurroundings twiceAbsent .readConfig
      (.config (.unreadable .missing)) := .readConfig rfl rfl
  have runs := run_prints_all_or_nothing emptySurroundings accepted
  exact ⟨accepted, (runs.2.2.2.2 _ _ fails).1.err⟩

end AutomataRequest

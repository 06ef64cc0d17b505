import AutomataRequest.Proofs.CommandLine.FrontEnds
import AutomataRequest.Proofs.RunStages

/-!
# What logging cannot change

Two runs are compared, up to their log lines. What the log filter is set to cannot be told from
the rest of a run, and neither can the log profile of a configuration. Of a configuration only
its program shows, and only if the command line asks for it.
-/

namespace AutomataRequest

open CommandLine (Invocation Request)

/-- The file that a request names holds the same in both surroundings. -/
def SameRequest (first second : Surroundings) : Request → Prop
  | .json file => first.readText file = second.readText file
  | .render _ | .pair _ => True

theorem same_request_of_files {first second : Surroundings} (sameFiles : first.files = second.files)
    (sameInput : first.input = second.input) (request : Request) :
    SameRequest first second request := by
  cases request with
  | json file => simp only [SameRequest, Surroundings.readText, sameFiles, sameInput]
  | render command => trivial
  | pair request => trivial

theorem answers_agree {first second : Surroundings} {request : Request}
    (same : SameRequest first second request) :
    request.answer first = request.answer second := by
  cases request with
  | json file =>
      have sameText : first.readText file = second.readText file := same
      simp only [Request.answer, sameText]
  | render command => rfl
  | pair request => rfl

/-- What a configuration adds to an end is its program, if that is asked for. -/
theorem same_ending {invocation : Invocation} {config config' : Config}
    (sameProgram : config.program = config'.program ∨ invocation.withProgram = false)
    (path : Option String) (result : Except RunFault (List String)) :
    invocation.ending config result = { invocation with config := path }.ending config' result := by
  cases result with
  | error fault => rfl
  | ok tokens =>
      apply congrArg Outcome.printed
      rcases sameProgram with sameProgram | noProgram
      · simp only [Invocation.output, sameProgram]
      · simp only [Invocation.output, noProgram, if_false, Bool.false_eq_true]

theorem unlogged_of_loaded {surroundings : Surroundings} {invocation : Invocation}
    {config : Config} (loads : invocation.loadConfig surroundings.files = .ok config) :
    (invocation.run surroundings).unlogged =
      invocation.ending config (invocation.request.answer surroundings).result := by
  obtain ⟨log, runs, -⟩ := run_of_loaded loads
  rw [runs]
  cases (invocation.request.answer surroundings).result with
  | ok tokens => rfl
  | error fault => rfl

/-- Two runs that ask for the same, but for the configuration that each of them loads. -/
theorem loaded_runs_agree {first second : Surroundings} {invocation : Invocation}
    {path : Option String} {config config' : Config}
    (sameRequest : SameRequest first second invocation.request)
    (loaded : LoadsConfig first.files invocation.config config)
    (loaded' : LoadsConfig second.files path config')
    (sameProgram : config.program = config'.program ∨ invocation.withProgram = false) :
    (invocation.run first).unlogged = ({ invocation with config := path }.run second).unlogged := by
  have loads' : { invocation with config := path }.loadConfig second.files = .ok config' :=
    load_config_of_loads loaded'
  rw [unlogged_of_loaded (load_config_of_loads loaded), unlogged_of_loaded loads',
    answers_agree sameRequest]
  exact same_ending sameProgram path _

theorem log_variable_unseen (surroundings : Surroundings) (directives : Option String)
    (invocation : Invocation) :
    (invocation.run { surroundings with logVariable := directives }).unlogged =
      (invocation.run surroundings).unlogged := by
  have sameAnswer : invocation.request.answer { surroundings with logVariable := directives } =
      invocation.request.answer surroundings :=
    answers_agree (same_request_of_files rfl rfl invocation.request)
  cases loads : invocation.loadConfig surroundings.files with
  | error fault =>
      have loads' : invocation.loadConfig
          { surroundings with logVariable := directives }.files = .error fault := loads
      rw [run_of_load_fault loads, run_of_load_fault loads']
  | ok config =>
      have loads' : invocation.loadConfig
          { surroundings with logVariable := directives }.files = .ok config := loads
      rw [unlogged_of_loaded loads, unlogged_of_loaded loads', sameAnswer]

/-- Up to its log lines a run does not depend on what the log filter is set to, and it depends on
its configuration through the program alone, if at all. Two configurations may be compared that
lie side by side, or that take the same place one after the other; in the second case the request
must not be read from that place too. -/
theorem logging_never_shows :
    (∀ (surroundings : Surroundings) (directives : Option String) (args : List String),
      (run { surroundings with logVariable := directives } args).unlogged =
        (run surroundings args).unlogged) ∧
    (∀ (surroundings : Surroundings) (args args' : List String) (invocation : Invocation)
        (path : Option String) (config config' : Config),
      CommandLine.parse args = .ok invocation →
      CommandLine.parse args' = .ok { invocation with config := path } →
      LoadsConfig surroundings.files invocation.config config →
      LoadsConfig surroundings.files path config' →
      (config.program = config'.program ∨ CommandLine.givesProgram args = false) →
      (run surroundings args).unlogged = (run surroundings args').unlogged) ∧
    ∀ (first second : Surroundings) (args : List String) (invocation : Invocation)
        (config config' : Config),
      CommandLine.parse args = .ok invocation →
      SameRequest first second invocation.request →
      LoadsConfig first.files invocation.config config →
      LoadsConfig second.files invocation.config config' →
      (config.program = config'.program ∨ CommandLine.givesProgram args = false) →
      (run first args).unlogged = (run second args).unlogged := by
  refine ⟨?_, ?_, ?_⟩
  · intro surroundings directives args
    unfold run
    cases CommandLine.parse args with
    | error rejection => rfl
    | ok invocation => exact log_variable_unseen surroundings directives invocation
  · intro surroundings args args' invocation path config config' accepted accepted' loaded loaded'
      sameProgram
    rw [← CommandLine.parse_program accepted] at sameProgram
    simp only [run, accepted, accepted']
    exact loaded_runs_agree (same_request_of_files rfl rfl invocation.request) loaded loaded'
      sameProgram
  · intro first second args invocation config config' accepted sameRequest loaded loaded'
      sameProgram
    rw [← CommandLine.parse_program accepted] at sameProgram
    simp only [run, accepted]
    exact loaded_runs_agree sameRequest loaded loaded' sameProgram

def loudText : String := "[logging]\nprofile = 'development'\n"

def quietText : String := "[logging]\nprofile = 'test'\n\n[tool]\nprogram = 'vata'\n"

/-- One file logs, and every other file does not. -/
def twoConfigs : Surroundings :=
  { files := fun file => .ok (if file = "loud.toml" then loudText else quietText).toUTF8
    input := ByteArray.empty
    logVariable := none }

def pairLine (config : String) : List String :=
  ["--config", config, "--with-program", "pair", "load", "left", "right"]

def pairInvocation (config : String) : Invocation :=
  { config := some config
    format := .lines
    withProgram := true
    request := .pair { operation := .load, options := none, left := "left", right := "right" } }

/-- One of the runs logs and the other does not, and nothing else tells them apart. -/
theorem loud_pair_like_quiet_pair :
    (run twoConfigs (pairLine "loud.toml")).unlogged =
      (run twoConfigs (pairLine "quiet.toml")).unlogged ∧
    (run twoConfigs (pairLine "loud.toml")).log.length = 2 ∧
    (run twoConfigs (pairLine "quiet.toml")).log = [] := by
  have loud : LoadsConfig twoConfigs.files (some "loud.toml")
      { program := "vata", profile := some .development } :=
    .fromFile (decode_text_of_utf8 loudText) rfl
  have quiet : LoadsConfig twoConfigs.files (some "quiet.toml")
      { program := "vata", profile := some .test } :=
    .fromFile (decode_text_of_utf8 quietText) rfl
  have accepted (config : String) (isPath : config = "loud.toml" ∨ config = "quiet.toml") :
      CommandLine.parse (pairLine config) = .ok (pairInvocation config) := by
    rcases isPath with rfl | rfl <;> rfl
  refine ⟨?_, ?_, ?_⟩
  · exact logging_never_shows.2.1 twoConfigs (pairLine "loud.toml") (pairLine "quiet.toml")
      (pairInvocation "loud.toml") (some "quiet.toml") _ _ (accepted _ (.inl rfl))
      (accepted _ (.inr rfl)) loud quiet (.inl rfl)
  · rfl
  · rfl

end AutomataRequest

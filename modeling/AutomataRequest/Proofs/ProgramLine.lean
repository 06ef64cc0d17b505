import AutomataRequest.Proofs.CommandLine.FrontEnds
import AutomataRequest.Proofs.RunStages

/-!
# The program in front

A configuration puts its program in front of the tokens of a command, and a run that is asked for
the program does the same on its own. The two agree on every command, also on one that is refused.
However a configuration was come by, there is something to be seen in the name of its program.
-/

namespace AutomataRequest

open CommandLine (Invocation)

namespace Config

/-- The name of the program has a character that is not blank. -/
def NamesProgram (config : Config) : Prop :=
  ∃ char ∈ config.program.toList, Text.isBlank char = false

theorem names_program_iff (config : Config) :
    config.NamesProgram ↔ Text.isAllBlank config.program = false := by
  simp only [NamesProgram, Text.isAllBlank, List.all_eq_false, Bool.not_eq_true]

theorem default_names_program : ({} : Config).NamesProgram := by
  rw [names_program_iff]
  rfl

theorem parsed_names_program {text : String} {config : Config}
    (isParsed : ofText text = .ok config) : config.NamesProgram := by
  rw [names_program_iff]
  unfold ofText at isParsed
  split at isParsed
  · cases isParsed
  · split at isParsed
    · cases isParsed
    · -- The last thing looked at is the very question whether the program is blank.
      split_ifs at isParsed with blank
      cases isParsed
      simpa using blank

theorem loaded_names_program {files : FileReader} {path : Option String} {config : Config}
    (loaded : LoadsConfig files path config) : config.NamesProgram := by
  cases loaded with
  | byDefault => exact default_names_program
  | fromFile isRead isParsed => exact parsed_names_program isParsed

theorem argv_eq (config : Config) (command : Command) :
    config.argv command = command.tokens.map (config.program :: ·) := by
  rw [argv]
  cases command.tokens <;> rfl

theorem argv_ok_iff (config : Config) (command : Command) (argv : List String) :
    config.argv command = .ok argv ↔
      ∃ tokens, command.tokens = .ok tokens ∧ argv = config.program :: tokens := by
  rw [argv_eq]
  cases command.tokens with
  | error fault => simp [Except.map]
  | ok tokens => simp [Except.map, eq_comm]

theorem argv_error_iff (config : Config) (command : Command) (fault : Fault) :
    config.argv command = .error fault ↔ command.tokens = .error fault := by
  rw [argv_eq]
  cases command.tokens <;> simp [Except.map]

end Config

/-- A run prints what the configuration assembles for its command, with the program or without it
as the command line asks, and it fails where that fails. The program stands in front as it was
configured, it is never blank, and the tokens of the command follow. -/
theorem run_prints_configured_argv (surroundings : Surroundings) {args : List String}
    {invocation : Invocation} {config : Config} {command : Command}
    (accepted : CommandLine.parse args = .ok invocation)
    (loaded : LoadsConfig surroundings.files invocation.config config)
    (called : ComesToCall surroundings invocation.request (.command command)) :
    let outcome := run surroundings args
    (∀ argv, config.argv command = .ok argv →
      (CommandLine.givesProgram args = true → outcome.Prints (invocation.format.render argv)) ∧
      (CommandLine.givesProgram args = false →
        outcome.Prints (invocation.format.render argv.tail)) ∧
      ∃ tokens, argv = config.program :: tokens ∧ command.tokens = .ok tokens ∧
        config.NamesProgram) ∧
    ∀ fault, config.argv command = .error fault → outcome.Reports (.request fault) := by
  intro outcome
  have isRun : outcome = invocation.run surroundings := run_of_accepted accepted
  have asked := CommandLine.parse_program accepted
  rw [isRun]
  constructor
  · intro argv assembled
    obtain ⟨tokens, answered, rfl⟩ := (config.argv_ok_iff command argv).mp assembled
    have prints := run_of_succeeds ⟨loaded, called, answered⟩
    rw [Invocation.output, asked] at prints
    refine ⟨?_, ?_, tokens, rfl, answered, Config.loaded_names_program loaded⟩
    · intro given
      rwa [given, if_pos rfl] at prints
    · intro notGiven
      rwa [notGiven, if_neg Bool.false_ne_true] at prints
  · intro fault refused
    rw [config.argv_error_iff command fault] at refused
    exact (run_of_fails_first (.serialize loaded called refused)).1

def spacedText : String := "tool.program = ' my vata'\n"

/-- Every path leads to a configuration whose program begins with a blank. -/
def spacedSurroundings : Surroundings :=
  { files := fun _ => .ok spacedText.toUTF8
    input := ByteArray.empty
    logVariable := none }

def spacedConfig : Config := { program := " my vata" }

def flaggedInvocation : Invocation :=
  { config := some "tool.toml"
    format := .shell
    withProgram := true
    request := .render
      { encoding := .explicit
        operation := .load
        options := none
        operands := ["--with-program"] } }

/-- The blank stays, and an operand that is spelled like the flag is an operand. -/
theorem spaced_program_comes_first :
    CommandLine.parse ["--config", "tool.toml", "--with-program", "render", "-r", "EXPL", "load",
      "--format", "shell", "--", "--with-program"] = .ok flaggedInvocation ∧
    (run spacedSurroundings ["--config", "tool.toml", "--with-program", "render", "-r", "EXPL",
      "load", "--format", "shell", "--", "--with-program"]).out =
      "' my vata' '-r' 'EXPL' 'LOAD' '--with-program'\n" := by
  have accepted : CommandLine.parse ["--config", "tool.toml", "--with-program", "render", "-r",
      "EXPL", "load", "--format", "shell", "--", "--with-program"] = .ok flaggedInvocation := rfl
  have loaded : LoadsConfig spacedSurroundings.files flaggedInvocation.config spacedConfig :=
    .fromFile (decode_text_of_utf8 spacedText) rfl
  have runs := run_prints_configured_argv spacedSurroundings accepted loaded (.render _)
  exact ⟨accepted, ((runs.1 _ rfl).1 rfl).out⟩

end AutomataRequest

import AutomataRequest.Proofs.CommandLine.AcceptedLines
import AutomataRequest.Proofs.Log.OperandSilence

/-!
# Where a request is read from

The standard input and a file are two names for bytes, and nothing but the name tells them apart.
Every command line that asks for a file has the name at one place, and one that names the input is
read as it would be read if it named a file: what is left of its arguments fails for the same
reason or goes on abreast. Both runs decode the same bytes, so they end alike, down to the lines of
the log.
-/

namespace AutomataRequest

section

variable {first second : Surroundings}

theorem load_config_same {invocation : CommandLine.Invocation}
    (setting : SameSetting first second invocation.config) :
    invocation.loadConfig first.files = invocation.loadConfig second.files := by
  unfold CommandLine.Invocation.loadConfig
  cases isNamed : invocation.config with
  | none => rfl
  | some path =>
      have sameText := setting.config path isNamed
      simp only [Config.load, sameText]

/-- A run is settled by its setting and by what comes of its request. -/
theorem run_same {invocation : CommandLine.Invocation} {request : CommandLine.Request}
    (setting : SameSetting first second invocation.config)
    (sameAnswer : request.answer first = invocation.request.answer second) :
    { invocation with request }.run first = invocation.run second := by
  have sameConfig : { invocation with request }.loadConfig first.files =
      invocation.loadConfig second.files := load_config_same setting
  unfold CommandLine.Invocation.run
  rw [sameConfig]
  cases invocation.loadConfig second.files with
  | error fault => rfl
  | ok config =>
      simp only [sameAnswer, setting.logVariable]
      rfl

theorem answer_of_same_bytes {file : String} {bytes : ByteArray} (notInput : file ≠ inputName)
    (given : first.input = bytes) (holds : second.files file = .ok bytes) :
    (CommandLine.Request.json inputName).answer first =
      (CommandLine.Request.json file).answer second := by
  have fromInput : first.readText inputName = decodeText bytes := by
    rw [Surroundings.readText, if_pos rfl, given]
  have fromFile : second.readText file = decodeText bytes := by
    rw [Surroundings.readText, if_neg notInput, FileReader.readText, holds]
    rfl
  simp only [CommandLine.Request.answer, fromInput, fromFile]

end

theorem run_same_bytes {first second : Surroundings} {place : CommandLine.FilePlace}
    {after : List String} {bytes : ByteArray} {file : String} (takes : place.Takes file)
    (notInput : file ≠ inputName) (given : first.input = bytes)
    (holds : second.files file = .ok bytes)
    (setting : ∀ invocation, CommandLine.parse (place.line inputName after) = .ok invocation →
      SameSetting first second invocation.config) :
    run first (place.line inputName after) = run second (place.line file after) := by
  have takesInput : place.Takes inputName := ⟨by decide, .inr rfl⟩
  have lines := CommandLine.parse_file_lines takesInput takes after
  unfold run
  generalize CommandLine.parse (place.line inputName after) = fromInput at lines setting ⊢
  generalize CommandLine.parse (place.line file after) = fromFile at lines ⊢
  cases lines with
  | error rejection => rfl
  | @ok reading other requests =>
      obtain ⟨rfl, isFile⟩ := requests
      have sameAnswer := answer_of_same_bytes notInput given holds
      rw [← isFile] at sameAnswer
      have sameSetting : SameSetting first second other.config :=
        setting { other with request := .json inputName } rfl
      exact run_same sameSetting sameAnswer

/-- Every accepted line that asks for a file has it at its place. Whatever the bytes and whatever
the other arguments, a run leaves the same behind, log lines included, if it reads the bytes from
its input or from a file that holds them. -/
theorem input_is_read_like_a_file :
    (∀ (args : List String) (invocation : CommandLine.Invocation) (file : String),
      CommandLine.parse args = .ok invocation → invocation.request = .json file →
      ∃ (place : CommandLine.FilePlace) (after : List String),
        place.Takes file ∧ args = place.line file after) ∧
    ∀ (first second : Surroundings) (place : CommandLine.FilePlace) (after : List String)
        (bytes : ByteArray) (file : String), place.Takes file → file ≠ inputName →
      first.input = bytes → second.files file = .ok bytes →
      (∀ invocation, CommandLine.parse (place.line inputName after) = .ok invocation →
        SameSetting first second invocation.config) →
      run first (place.line inputName after) = run second (place.line file after) := by
  constructor
  · intro args invocation file accepted asks
    exact CommandLine.file_line_of_accepted accepted asks
  · intro first second place after bytes file takes notInput given holds setting
    exact run_same_bytes takes notInput given holds setting

/-- A byte that begins no character. -/
def brokenBytes : ByteArray := ⟨#[0xFF]⟩

def brokenInput : Surroundings :=
  { files := fun _ => .error .missing
    input := brokenBytes
    logVariable := some "debug" }

/-- Every path leads to the broken bytes, and the input is empty. -/
def brokenFiles : Surroundings :=
  { files := fun _ => .ok brokenBytes
    input := ByteArray.empty
    logVariable := some "debug" }

theorem program_given : CommandLine.GlobalArguments ["--with-program"] := .cons .program .nil

theorem format_given : CommandLine.GlobalArguments ["--format=shell"] :=
  .cons (.attached .format "shell" rfl rfl) .nil

def escapedPlace : CommandLine.FilePlace where
  before := ["--with-program"]
  inside := ["--format=shell"]
  escaped := true
  givenBefore := program_given
  givenInside := format_given

/-- Behind two hyphens a file may look like a flag, and its bytes are refused as those of the input
are. -/
theorem flag_like_file_read_like_input :
    run brokenInput ["--with-program", "json", "--format=shell", "--", "-"] =
      run brokenFiles ["--with-program", "json", "--format=shell", "--", "--config"] ∧
    (run brokenInput ["--with-program", "json", "--format=shell", "--", "-"]).err =
      "Error: stream did not contain valid UTF-8\n" ∧
    ∃ (place : CommandLine.FilePlace) (after : List String), place.Takes "--config" ∧
      ["--with-program", "json", "--format=shell", "--", "--config"] =
        place.line "--config" after := by
  have takes : escapedPlace.Takes "--config" := ⟨by decide, .inl rfl⟩
  have isRead (file : String) (isOne : file = inputName ∨ file = "--config") :
      CommandLine.parse (escapedPlace.line file []) = .ok ⟨none, .shell, true, .json file⟩ := by
    rcases isOne with rfl | rfl <;> rfl
  refine ⟨?_, rfl, ?_⟩
  · apply input_is_read_like_a_file.2 brokenInput brokenFiles escapedPlace [] brokenBytes _ takes
      (by decide) rfl rfl
    intro invocation accepted
    rw [isRead inputName (.inl rfl)] at accepted
    cases accepted
    exact ⟨rfl, fun _ named => by cases named⟩
  · exact input_is_read_like_a_file.1 _ _ _ (isRead "--config" (.inr rfl)) rfl

end AutomataRequest

import AutomataRequest.Proofs.CommandLine.CommandArguments
import AutomataRequest.Proofs.Json.WrittenCommand
import AutomataRequest.Proofs.Text.Utf8
import AutomataRequest.Run

/-!
# Two ways to give a command

A command may be given by flags and plain arguments, or by a file that holds its text. The two
command lines are read side by side: global flags keep them abreast, and the arguments between
put the command on one side and the file on the other. From there on both runs have the same
command, so they leave the same behind, up to their log lines.
-/

namespace AutomataRequest

namespace CommandLine

/-! Whole command lines. -/

/-- Global flags at the places where the command lines of both subcommands take them. -/
structure GlobalPlaces where
  before : List String
  after : List String
  late : List String
  givenBefore : GlobalArguments before
  givenAfter : GlobalArguments after
  givenLate : GlobalArguments late

namespace GlobalPlaces

def renderArguments (places : GlobalPlaces) (command : Command) : List String :=
  places.after ++ (requestArguments command ++ (places.late ++ "--" :: command.operands))

def jsonArguments (places : GlobalPlaces) (file : String) : List String :=
  places.after ++ ([file] ++ places.late)

/-- The command line that gives a command by its parts. -/
def renderLine (places : GlobalPlaces) (command : Command) : List String :=
  places.before ++ Subcommand.render.name :: places.renderArguments command

/-- The command line that names a file. -/
def jsonLine (places : GlobalPlaces) (file : String) : List String :=
  places.before ++ Subcommand.json.name :: places.jsonArguments file

end GlobalPlaces

/-- What a level holds of a command at its end. -/
def wholeGiven (command : Command) : Given :=
  { requestGiven command with operands := command.operands }

theorem whole_given_fits (command : Command) :
    (wholeGiven command).conflict? = none ∧
      (wholeGiven command).request? .render = some (.render command) := by
  obtain ⟨encoding, operation, options, operands⟩ := command
  rcases options with _ | direction | order <;> exact ⟨rfl, rfl⟩

/-- At the end the operands are due on one side, and nothing more on the other. -/
theorem read_operands_alike {command : Command} {file : String} {first second : Reading}
    (abreast : first.Abreast ⟨requestGiven command, 1⟩ ⟨{ file := some file }, 1⟩ second) :
    Alike (Given.Abreast (wholeGiven command) { file := some file })
      ((Layout.ofSubcommand .render).readDue first ("--" :: command.operands))
      (second.due.mapError .usage) := by
  have isNext : (Layout.ofSubcommand .render).places[first.filled]? = some .operands := by
    rw [abreast.firstFilled]
    rfl
  have escaped : (Layout.ofSubcommand .render).readDue first ("--" :: command.operands) =
      (Layout.ofSubcommand .render).readDue { first with plainOnly := true } command.operands := by
    simp only [Layout.readDue, Layout.readAll, Layout.take_escape abreast.firstOpen]
    rfl
  have rendered : (Layout.ofSubcommand .render).readDue first ("--" :: command.operands) =
      first.due.mapError Rejection.usage >>= fun given =>
        .ok { given with operands := given.operands ++ command.operands } :=
    escaped.trans (Layout.read_operands command.operands isNext rfl)
  rw [rendered, ← bind_pure (second.due.mapError Rejection.usage)]
  apply (abreast.due.map_error Rejection.usage).bind
  rintro given given' ⟨sameGlobals, leftRequest, rightRequest⟩
  have noneBefore : given.operands = [] := congrArg Given.operands leftRequest
  refine .ok ⟨sameGlobals, ?_, rightRequest⟩
  rw [noneBefore]
  exact congrArg (fun part => { part with operands := command.operands }) leftRequest

theorem read_levels (places : GlobalPlaces) (command : Command) {file : String}
    (isFile : IsFileArgument file) :
    Alike (Given.Abreast (wholeGiven command) { file := some file })
      ((Layout.ofSubcommand .render).readDue {} (places.renderArguments command))
      ((Layout.ofSubcommand .json).readDue {} (places.jsonArguments file)) := by
  have wide := Layout.subcommand_is_wide .render
  have wide' := Layout.subcommand_is_wide .json
  simp only [GlobalPlaces.renderArguments, GlobalPlaces.jsonArguments, Layout.read_due_append]
  apply (read_global_arguments wide wide' places.givenAfter Reading.start_abreast).bind
  intro first second abreast
  apply (read_request_arguments command isFile abreast).bind
  intro first second abreast
  apply (read_global_arguments wide wide' places.givenLate abreast).bind
  intro first second abreast
  exact read_operands_alike abreast

theorem read_subcommands (places : GlobalPlaces) (command : Command) {file : String}
    (isFile : IsFileArgument file) :
    Alike (fun rendered loaded => rendered.1.globalPart = loaded.1.globalPart ∧
        rendered.2 = .render command ∧ loaded.2 = .json file)
      (readSubcommand .render (places.renderArguments command))
      (readSubcommand .json (places.jsonArguments file)) := by
  rw [read_subcommand_eq, read_subcommand_eq]
  apply (read_levels places command isFile).bind
  intro given given' givens
  obtain ⟨noConflict, isRequest⟩ := whole_given_fits command
  rw [given.conflict_of_request_part, given.request_of_request_part,
    given'.conflict_of_request_part, given'.request_of_request_part, givens.leftRequest,
    givens.rightRequest, noConflict, isRequest]
  exact .ok ⟨givens.sameGlobals, rfl, rfl⟩

theorem read_root_subcommand {reading : Reading} (isOpen : reading.IsOpen)
    (subcommand : Subcommand) (args : List String) :
    readRoot reading (subcommand.name :: args) = (do
      let inner ← readSubcommand subcommand args
      let outer ← reading.due.mapError .usage
      return outer.invocation inner.1 inner.2) := by
  have isName : Subcommand.ofName? subcommand.name = some subcommand := by
    cases subcommand <;> rfl
  simp only [readRoot, isOpen.flagsRead, isOpen.noneAwaited, Bool.not_false, Option.isNone_none,
    Bool.and_self, if_true, isName, Reading.settle_eq]
  cases reading.due <;> rfl

/-- Behind global flags comes the subcommand, and what stands before it is looked at last. -/
theorem parse_behind_globals {before : List String} (globals : GlobalArguments before)
    (subcommand : Subcommand) (args : List String) :
    parse (before ++ subcommand.name :: args) = (do
      let outer ← Layout.root.readAll {} before
      let inner ← readSubcommand subcommand args
      let held ← outer.due.mapError .usage
      return held.invocation inner.1 inner.2) := by
  have alike := read_global_arguments Layout.root_is_wide Layout.root_is_wide
    globals Reading.start_abreast
  rw [parse, read_root_globals _ globals Reading.start_abreast]
  cases attempt : Layout.root.readAll {} before with
  | error fault => rfl
  | ok outer =>
      rw [attempt] at alike
      cases alike with
      | ok abreast => exact read_root_subcommand abreast.firstOpen subcommand args

/-- Behind the same global flags, two subcommands that are read alike make command lines that are
rejected for the same reason, or differ in the request alone. -/
theorem parse_subcommands {before args args' : List String} {subcommand subcommand' : Subcommand}
    {request request' : Request} (globals : GlobalArguments before)
    (inner : Alike (fun first second => first.1.globalPart = second.1.globalPart ∧
        first.2 = request ∧ second.2 = request')
      (readSubcommand subcommand args) (readSubcommand subcommand' args')) :
    Alike (fun first second => first = { second with request } ∧ second.request = request')
      (parse (before ++ subcommand.name :: args)) (parse (before ++ subcommand'.name :: args')) := by
  rw [parse_behind_globals globals, parse_behind_globals globals]
  apply (Alike.same (Layout.root.readAll {} before)).bind
  rintro outer _ rfl
  apply inner.bind
  rintro first second ⟨sameGlobals, isRequest, isOther⟩
  apply (Alike.same (outer.due.mapError Rejection.usage)).bind
  rintro held _ rfl
  refine .ok ⟨?_, isOther⟩
  rw [isRequest]
  have sameInvocation := congrArg
    (fun part : Given => held.invocation part request) sameGlobals
  exact sameInvocation

/-- Both lines are rejected for the same reason, or they differ in the request alone. -/
theorem parse_lines (places : GlobalPlaces) (command : Command) {file : String}
    (isFile : IsFileArgument file) :
    Alike (fun rendered loaded => rendered = { loaded with request := .render command } ∧
        loaded.request = .json file)
      (parse (places.renderLine command)) (parse (places.jsonLine file)) :=
  parse_subcommands places.givenBefore (read_subcommands places command isFile)

/-! Runs. -/

theorem answers_alike {surroundings : Surroundings} {command : Command} {file : String}
    (holds : surroundings.readText file = .ok command.toJson) :
    (Request.answer surroundings (.json file)).result =
      (Request.answer surroundings (.render command)).result := by
  simp only [Request.answer, holds, Command.of_json_to_json]

end CommandLine

/-- What a run leaves behind, apart from its log lines. -/
def Outcome.unlogged (outcome : Outcome) : Outcome := { outcome with log := [] }

theorem run_invocations_alike {surroundings : Surroundings} {command : Command} {file : String}
    {loaded : CommandLine.Invocation} (fileAsked : loaded.request = .json file)
    (holds : surroundings.readText file = .ok command.toJson) :
    ({ loaded with request := .render command }.run surroundings).unlogged =
      (loaded.run surroundings).unlogged := by
  have sameAnswer := CommandLine.answers_alike holds
  have sameConfig : { loaded with request := .render command }.loadConfig surroundings.files =
      loaded.loadConfig surroundings.files := rfl
  unfold CommandLine.Invocation.run
  rw [sameConfig, fileAsked]
  cases loaded.loadConfig surroundings.files with
  | error fault => rfl
  | ok config =>
      simp only [Outcome.unlogged, sameAnswer]
      cases (CommandLine.Request.answer surroundings (.render command)).result with
      | error fault => rfl
      | ok tokens => rfl

/-- Whether a command is given by its parts or by a file that holds its text, the run ends with
the same status, and prints the same on both sides, log lines apart. -/
theorem parts_and_file_end_alike (surroundings : Surroundings)
    (places : CommandLine.GlobalPlaces) (command : Command) (file : String)
    (isFile : CommandLine.IsFileArgument file)
    (holds : surroundings.readText file = .ok command.toJson) :
    (run surroundings (places.renderLine command)).unlogged =
      (run surroundings (places.jsonLine file)).unlogged := by
  have lines := CommandLine.parse_lines places command isFile
  unfold run
  generalize CommandLine.parse (places.renderLine command) = rendered at lines ⊢
  generalize CommandLine.parse (places.jsonLine file) = loaded at lines ⊢
  cases lines with
  | error rejection => rfl
  | ok requests =>
      obtain ⟨rfl, fileAsked⟩ := requests
      exact run_invocations_alike fileAsked holds

theorem Surroundings.read_text_of_file {surroundings : Surroundings} {file text : String}
    (notInput : file ≠ inputName) (found : surroundings.files file = .ok text.toUTF8) :
    surroundings.readText file = .ok text := by
  simp only [readText, notInput, if_false, FileReader.readText, found]
  exact decode_text_of_utf8 text

/-- Operands that look like flags, end the flags, are empty, or have to be escaped in a file. -/
def awkwardCommand : Command :=
  { encoding := .explicitFa
    operation := .simulation
    options := some (.direction .backward)
    operands := ["--", "-r", "", "it's", "a\n\"b\""] }

/-- Every path leads to the text of the command. -/
def awkwardSurroundings : Surroundings :=
  { files := fun _ => .ok awkwardCommand.toJson.toUTF8
    input := ByteArray.empty
    logVariable := some "debug" }

def awkwardPlaces : CommandLine.GlobalPlaces where
  before := ["--format", "shell"]
  after := []
  late := ["--with-program"]
  givenBefore := .cons (.separate .format "shell" rfl rfl rfl) .nil
  givenAfter := .nil
  givenLate := .cons .program .nil

/-- The awkward operands come out of the file as they come out of the arguments. -/
theorem awkward_command_from_file :
    (run awkwardSurroundings ["--format", "shell", "json", "command.json",
      "--with-program"]).unlogged =
      .printed "'vata' '-r' 'EFA' 'SIM' '-o' 'dir=BWD' '--' '-r' '' 'it'\\''s' 'a\n\"b\"'\n" := by
  have alike := parts_and_file_end_alike awkwardSurroundings awkwardPlaces awkwardCommand
    "command.json" ⟨rfl, by decide⟩ (awkwardSurroundings.read_text_of_file (by decide) rfl)
  apply Eq.trans alike.symm
  rfl

end AutomataRequest

import AutomataRequest.Proofs.Log.CallRecords
import AutomataRequest.Proofs.Log.CleanLines
import Mathlib.Data.List.Forall2

/-!
# What a log tells of the operands

Two runs are compared whose operands differ. A filter looks at the level of an event, at its
target and at the names of its fields, and the operands are in none of these, so both runs log
equally many lines. If the operands were not given by flags, no event shows them, and both runs
log the same.
-/

namespace AutomataRequest

open CommandLine (Invocation Request)

namespace Log

/-- All that a filter can tell of the events is the same. -/
structure Event.SameShape (first second : Event) : Prop where
  level : first.level = second.level
  target : first.target = second.target
  names : (first.bareFields "").map Prod.fst = (second.bareFields "").map Prod.fst

theorem Event.has_field_iff (event : Event) (elapsed name : String) :
    (event.field? elapsed name).isSome ↔ name ∈ (event.bareFields elapsed).map Prod.fst := by
  simp [Event.field?, List.lookup_isSome_iff]

section

variable {first second : Event} (same : first.SameShape second)
include same

theorem Condition.holds_same_shape (condition : Condition) :
    condition.holds first = condition.holds second := by
  cases condition with
  | none => rfl
  | scope => rfl
  | field name =>
      apply Bool.eq_iff_iff.mpr
      simp only [Condition.holds, Event.has_field_iff, same.names]

theorem Directive.covers_same_shape (directive : Directive) :
    directive.covers first = directive.covers second := by
  simp only [Directive.covers, same.target, directive.condition.holds_same_shape same]

theorem Filter.admits_same_shape (filter : Filter) :
    filter.admits first = filter.admits second := by
  have sameCovers : (fun directive : Directive => directive.covers first) =
      fun directive => directive.covers second := by
    funext directive
    exact directive.covers_same_shape same
  simp only [Filter.admits, Filter.decisive, sameCovers, same.level]

end

theorem Recorder.lines_length_same_shape (recorder : Recorder) {first second : List Event}
    (same : List.Forall₂ Event.SameShape first second) :
    (recorder.lines first).length = (recorder.lines second).length := by
  have kept : List.Forall₂ Event.SameShape (first.filter recorder.filter.admits)
      (second.filter recorder.filter.admits) := by
    apply List.rel_filter _ same
    intro event other sameShape
    exact Bool.eq_iff_iff.mp (recorder.filter.admits_same_shape sameShape)
  simp only [Recorder.lines, List.length_map, kept.length_eq]

end Log

/-- The log directives and the configuration are the same in both surroundings. -/
structure SameSetting (first second : Surroundings) (path : Option String) : Prop where
  logVariable : first.logVariable = second.logVariable
  config : ∀ file ∈ path, first.files.readText file = second.files.readText file

theorem SameSetting.refl (surroundings : Surroundings) (path : Option String) :
    SameSetting surroundings surroundings path :=
  ⟨rfl, fun _ _ => rfl⟩

theorem loads_same {first second : FileReader} {path : Option String} {config : Config}
    (same : ∀ file ∈ path, first.readText file = second.readText file)
    (loaded : LoadsConfig first path config) : LoadsConfig second path config := by
  cases loaded with
  | byDefault => exact .byDefault
  | fromFile isRead isParsed => exact .fromFile ((same _ rfl).symm.trans isRead) isParsed

theorem silent_without_config {surroundings : Surroundings} {invocation : Invocation}
    (unloaded : ∀ config, ¬LoadsConfig surroundings.files invocation.config config) :
    (invocation.run surroundings).log = [] := by
  rcases silent_or_calls surroundings invocation with silent | ⟨config, _, loaded, _⟩
  · exact silent
  · exact absurd loaded (unloaded config)

section

variable {first second : Surroundings} {invocation invocation' : Invocation}

/-- What is observed of two logs agrees if every recorder makes it agree. -/
theorem logs_agree {Observed : Type} (observe : List Log.Line → Observed)
    (setting : SameSetting first second invocation.config)
    (samePath : invocation'.config = invocation.config)
    (sameLines : ∀ config, LoadsConfig first.files invocation.config config →
      LoadsConfig second.files invocation'.config config → ∀ recorder : Log.Recorder,
      observe (recorder.lines (invocation.request.answer first).events) =
        observe (recorder.lines (invocation'.request.answer second).events)) :
    observe (invocation.run first).log = observe (invocation'.run second).log := by
  by_cases loads : ∃ config, LoadsConfig first.files invocation.config config
  · obtain ⟨config, loaded⟩ := loads
    have loaded' : LoadsConfig second.files invocation'.config config := by
      rw [samePath]
      exact loads_same setting.config loaded
    rw [log_of_loaded loaded, log_of_loaded loaded', setting.logVariable]
    cases config.recorder? second.logVariable with
    | none => rfl
    | some recorder => exact sameLines config loaded loaded' recorder
  · have unloaded : ∀ config, ¬LoadsConfig first.files invocation.config config :=
      not_exists.mp loads
    have unloaded' : ∀ config, ¬LoadsConfig second.files invocation'.config config := by
      intro config loaded'
      rw [samePath] at loaded'
      exact unloaded config
        (loads_same (fun file isPath => (setting.config file isPath).symm) loaded')
    rw [silent_without_config unloaded, silent_without_config unloaded']

/-! Commands from flags. -/

/-- The events of two commands are alike, as long as both are answered or both are refused. -/
theorem render_events_same_shape {command command' : Command}
    (sameEnd : (Call.command command).tokens.isOk = (Call.command command').tokens.isOk) :
    List.Forall₂ Log.Event.SameShape
      ((Request.render command).answer first).events
      ((Request.render command').answer second).events := by
  rw [answer_events_of_call (.render command), answer_events_of_call (.render command')]
  cases answer : (Call.command command).tokens with
  | ok tokens =>
      cases answer' : (Call.command command').tokens with
      | ok tokens' =>
          rw [Call.events_of_answered answer, Call.events_of_answered answer']
          exact .cons ⟨rfl, rfl, rfl⟩ (.cons ⟨rfl, rfl, rfl⟩ (.cons ⟨rfl, rfl, rfl⟩ .nil))
      | error fault' =>
          rw [answer, answer'] at sameEnd
          cases sameEnd
  | error fault =>
      cases answer' : (Call.command command').tokens with
      | ok tokens' =>
          rw [answer, answer'] at sameEnd
          cases sameEnd
      | error fault' =>
          rw [Call.events_of_refused answer, Call.events_of_refused answer']
          exact .cons ⟨rfl, rfl, rfl⟩ (.cons ⟨rfl, rfl, rfl⟩ (.cons ⟨rfl, rfl, rfl⟩ .nil))

theorem ends_well_iff {surroundings : Surroundings} {config : Config} {call : Call}
    (loaded : LoadsConfig surroundings.files invocation.config config)
    (called : ComesToCall surroundings invocation.request call) :
    (invocation.run surroundings).status = 0 ↔ call.tokens.isOk = true := by
  cases answer : call.tokens with
  | ok tokens =>
      have status := (run_of_succeeds ⟨loaded, called, answer⟩).status
      exact iff_of_true status rfl
  | error fault =>
      have status := (run_of_fails_first (.serialize loaded called answer)).1.status
      rw [status]
      exact iff_of_false Nat.one_ne_zero Bool.false_ne_true

theorem render_logs_equally_long {command command' : Command}
    (setting : SameSetting first second invocation.config)
    (samePath : invocation'.config = invocation.config)
    (rendered : invocation.request = .render command)
    (rendered' : invocation'.request = .render command')
    (sameStatus : (invocation.run first).status = (invocation'.run second).status) :
    (invocation.run first).log.length = (invocation'.run second).log.length := by
  apply logs_agree List.length setting samePath
  intro config loaded loaded' recorder
  have called : ComesToCall first invocation.request (.command command) := by
    rw [rendered]
    exact .render command
  have called' : ComesToCall second invocation'.request (.command command') := by
    rw [rendered']
    exact .render command'
  have sameEnd : (Call.command command).tokens.isOk = (Call.command command').tokens.isOk := by
    rw [Bool.eq_iff_iff, ← ends_well_iff loaded called, ← ends_well_iff loaded' called',
      sameStatus]
  rw [rendered, rendered']
  exact recorder.lines_length_same_shape (render_events_same_shape sameEnd)

end

/-! Inputs and pairs. -/

/-- Two requests that are the same but for what the operands hold. Inputs that are no commands
have no operands. -/
inductive SameButOperands (first second : Surroundings) : Request → Request → Prop
  | pair (given : PairRequest) (left right : String) :
      SameButOperands first second (.pair given) (.pair { given with left, right })
  | json {file file' text text' : String} {command : Command} {operands : List String}
      (isRead : first.readText file = .ok text) (isRead' : second.readText file' = .ok text')
      (isParsed : Command.ofJson text = .ok command)
      (isParsed' : Command.ofJson text' = .ok { command with operands })
      (sameCount : operands.length = command.operands.length) :
      SameButOperands first second (.json file) (.json file')
  | refused {file file' : String}
      (noCommand : ∀ call, ¬ComesToCall first (.json file) call)
      (noCommand' : ∀ call, ¬ComesToCall second (.json file') call) :
      SameButOperands first second (.json file) (.json file')

theorem no_events_without_call {surroundings : Surroundings} {file : String}
    (noCommand : ∀ call, ¬ComesToCall surroundings (.json file) call) :
    ((Request.json file).answer surroundings).events = [] := by
  cases isRead : surroundings.readText file with
  | error cause => simp only [Request.answer, isRead]
  | ok text =>
      cases isParsed : Command.ofJson text with
      | error cause => simp only [Request.answer, isRead, isParsed]
      | ok command => exact absurd (.json isRead isParsed) (noCommand _)

/-- A blanked call keeps nothing of the operands but their number. -/
theorem events_of_operand_count (command : Command) {operands : List String}
    (sameCount : operands.length = command.operands.length) :
    (Call.command command).serialize.events =
      (Call.command { command with operands }).serialize.events := by
  have sameBlanks : (Call.command command).blanked =
      (Call.command { command with operands }).blanked := by
    simp only [Call.blanked, List.map_const', sameCount]
  rw [← Call.events_blanked, sameBlanks, Call.events_blanked]

theorem events_same_but_operands {first second : Surroundings} {request request' : Request}
    (same : SameButOperands first second request request') :
    (request.answer first).events = (request'.answer second).events := by
  cases same with
  | pair given left right =>
      rw [answer_events_of_call (.pair given), answer_events_of_call (.pair _)]
      exact congrArg _ (((Call.pair given).events_blanked).symm.trans
        (Call.pair { given with left, right }).events_blanked)
  | json isRead isRead' isParsed isParsed' sameCount =>
      rw [answer_events_of_call (.json isRead isParsed),
        answer_events_of_call (.json isRead' isParsed'), events_of_operand_count _ sameCount]
      rfl
  | refused noCommand noCommand' =>
      rw [no_events_without_call noCommand, no_events_without_call noCommand']

/-- Every event that a run logs is one line. Without styles no line has a control character, and
styles, which only lines for a reader have and which can be forbidden, put in nothing but their own
sequences. Two runs that take their commands from flags and end alike log equally many lines. Two
runs that take the same command from an input, or the same pair, log the same, whatever the
operands hold. -/
theorem operands_forge_no_log_line :
    (∀ (surroundings : Surroundings) (args : List String) (noColor : Option String)
        (reading : Nat → Log.Reading),
      let outcome := run surroundings args
      let styled := Log.showsStyles noColor
      (outcome.logText styled reading).toList.splitOn '\n' =
        (outcome.log.mapIdx fun number line => (line.written styled (reading number)).toList) ++
          [[]] ∧
      ∀ line ∈ outcome.log, ∀ number, line.IsGuarded noColor (reading number)) ∧
    ∀ (first second : Surroundings) (args args' : List String)
        (invocation invocation' : Invocation),
      CommandLine.parse args = .ok invocation →
      CommandLine.parse args' = .ok invocation' →
      invocation'.config = invocation.config →
      SameSetting first second invocation.config →
      (∀ command command', invocation.request = .render command →
        invocation'.request = .render command' →
        (run first args).status = (run second args').status →
        (run first args).log.length = (run second args').log.length) ∧
      (SameButOperands first second invocation.request invocation'.request →
        (run first args).log = (run second args').log) := by
  constructor
  · intro surroundings args noColor reading outcome styled
    have clean : ∀ line ∈ outcome.log, line.event.IsClean := by
      intro line logged
      exact logged_event_clean logged
    refine ⟨split_log_text clean styled reading, ?_⟩
    intro line logged number
    exact Log.Line.is_guarded (clean line logged) noColor (reading number)
  · intro first second args args' invocation invocation' accepted accepted' samePath setting
    rw [run_of_accepted accepted, run_of_accepted accepted']
    constructor
    · intro command command' rendered rendered' sameStatus
      exact render_logs_equally_long setting samePath rendered rendered' sameStatus
    · intro same
      apply logs_agree id setting samePath
      intro config _ _ recorder
      rw [events_same_but_operands same]

/-- An operand that closes its quotes, goes on like a line of the log, and erases what is shown. -/
def hostileOperand : String := "a.fa\"]\nERROR autcmd_core: forged\x1b[2K\x7f"

def loadRequest (operand : String) : Request :=
  .render { encoding := .explicitFa, operation := .load, options := none, operands := [operand] }

def unionPair (left : String) : PairRequest :=
  { operation := .union, options := none, left, right := "b.fa" }

/-- The hostile operand is shown in the first of three lines, as any other operand would be, and
in a pair it is not shown. -/
theorem hostile_operand_adds_no_line :
    let hostileLog := (run emptySurroundings ["render", "-r", "EFA", "LOAD", hostileOperand]).log
    hostileLog.length = 3 ∧
    (∀ line ∈ hostileLog, line.IsGuarded none leapDayReading ∧
      Text.ControlFree (line.written (Log.showsStyles (some "1")) leapDayReading)) ∧
    (run emptySurroundings ["pair", "union", hostileOperand, "b.fa"]).log =
      (run emptySurroundings ["pair", "union", "a.fa", "b.fa"]).log := by
  intro hostileLog
  have rendered (operand : String) (isOne : operand = hostileOperand ∨ operand = "a.fa") :
      CommandLine.parse ["render", "-r", "EFA", "LOAD", operand] =
        .ok ⟨none, .lines, false, loadRequest operand⟩ := by
    rcases isOne with rfl | rfl <;> rfl
  have paired (operand : String) (isOne : operand = hostileOperand ∨ operand = "a.fa") :
      CommandLine.parse ["pair", "union", operand, "b.fa"] =
        .ok ⟨none, .lines, false, .pair (unionPair operand)⟩ := by
    rcases isOne with rfl | rfl <;> rfl
  have lines (noColor : Option String) := operands_forge_no_log_line.1 emptySurroundings
    ["render", "-r", "EFA", "LOAD", hostileOperand] noColor fun _ => leapDayReading
  have renders := operands_forge_no_log_line.2 emptySurroundings emptySurroundings _ _ _ _
    (rendered hostileOperand (.inl rfl)) (rendered "a.fa" (.inr rfl)) rfl (.refl _ none)
  have pairs := operands_forge_no_log_line.2 emptySurroundings emptySurroundings _ _ _ _
    (paired hostileOperand (.inl rfl)) (paired "a.fa" (.inr rfl)) rfl (.refl _ none)
  refine ⟨?_, ?_, ?_⟩
  · exact (renders.1 _ _ rfl rfl rfl).trans rfl
  · intro line logged
    exact ⟨(lines none).2 line logged 0, ((lines (some "1")).2 line logged 0).free⟩
  · exact pairs.2 (.pair (unionPair hostileOperand) "a.fa" "b.fa")

/-- A command whose one operand stands between its quotes as it is given. -/
def operandInput (operand : String) : String :=
  "\x7b\"encoding\":\"explicit_fa\",\"operation\":\"load\",\"operands\":[\"" ++ operand ++ "\"]\x7d"

def operandSurroundings (operand : String) : Surroundings :=
  { emptySurroundings with input := (operandInput operand).toUTF8 }

/-- Lines are styled unless that is forbidden, and then the sequences have their escapes. An
operand that is no text, half a pair of surrogates, leaves no command of which anything could be
logged. -/
theorem styled_line_has_escapes :
    (∃ line ∈ (run emptySurroundings ["render", "-r", "EFA", "LOAD", "a.fa"]).log,
      ¬Text.ControlFree (line.written (Log.showsStyles none) leapDayReading)) ∧
    (run (operandSurroundings "a.fa") ["json", "-"]).log ≠ [] ∧
    (run (operandSurroundings "\\udc00") ["json", "-"]).log = [] := by
  refine ⟨by decide +kernel, by decide +kernel, by decide +kernel⟩

end AutomataRequest

import AutomataRequest.Proofs.CommandLine.FrontEnds
import AutomataRequest.Proofs.RunStages

/-!
# What a run logs

A run whose request comes to a call has the two events of that call, behind an announcement if the
command was given by flags, and every other run has none. A profile lets some of them through and
gives the lines their style: without a profile, or under the one for tests, a run is silent.
-/

namespace AutomataRequest

open CommandLine (Invocation Request)

/-! The events. -/

namespace Call

/-- An event of a call. All of them have one target and begin alike. -/
def event (call : Call) (level : Log.Level) (name : String)
    (details : List (String × Log.Value)) : Log.Event :=
  { level
    target := "autcmd_core::serializer"
    fields := [("component", .text "autcmd_core::serializer"), ("op", .text call.name),
      ("event", .text name)] ++ details }

/-- The start of a call, with what is known of it by then. -/
def opening : Call → Log.Event
  | .command given =>
      event (.command given) .debug "start"
        [("encoding", .text given.encoding.token), ("operation", .text given.operation.token),
          ("operand_count", .count given.operands.length)]
  | .pair given =>
      event (.pair given) .debug "start" [("operation", .text given.operation.token)]

/-- The end of a call that was answered with tokens. -/
def closing (call : Call) (tokens : List String) : Log.Event :=
  call.event .debug "end" [("duration_ms", .elapsed), ("token_count", .count tokens.length)]

/-- The end of a call that failed. -/
def refusal (call : Call) (fault : Fault) : Log.Event :=
  call.event .warn "end_error"
    [("duration_ms", .elapsed), ("err_kind", .shown fault.kind.label),
      ("err_code", .text fault.kind.code)]

theorem events_of_answered {call : Call} {tokens : List String}
    (answered : call.tokens = .ok tokens) :
    call.serialize.events = [call.opening, call.closing tokens] := by
  cases call with
  | command given =>
      have isAnswer : given.tokens = .ok tokens := answered
      simp only [serialize, Command.serialize, isAnswer]
      rfl
  | pair given =>
      have isAnswer : given.tokens = .ok tokens := answered
      simp only [serialize, PairRequest.serialize, isAnswer]
      rfl

theorem events_of_refused {call : Call} {fault : Fault} (refused : call.tokens = .error fault) :
    call.serialize.events = [call.opening, call.refusal fault] := by
  have sameCode : fault.report.code = fault.kind.code := congrArg FaultKind.code fault.report_kind
  cases call with
  | command given =>
      have isAnswer : given.tokens = .error fault := refused
      simp only [serialize, Command.serialize, isAnswer, Log.bracket, Log.failed, sameCode]
      rfl
  | pair given =>
      have isAnswer : given.tokens = .error fault := refused
      simp only [serialize, PairRequest.serialize, isAnswer, Log.bracket, Log.failed, sameCode]
      rfl

end Call

/-- What comes before the events of the call. A command that was given by flags is shown. -/
def CommandLine.Request.announcement : Request → List Log.Event
  | .render command =>
      [{ level := .debug
         target := "autcmd_cli::commands::render"
         message := some "rendering command from flags"
         fields := [("command", .shown command.label)] }]
  | .json _ | .pair _ => []

theorem answer_events_of_call {surroundings : Surroundings} {request : Request} {call : Call}
    (called : ComesToCall surroundings request call) :
    (request.answer surroundings).events = request.announcement ++ call.serialize.events := by
  cases called with
  | render command => rfl
  | json isRead isParsed =>
      simp only [Request.answer, isRead, isParsed]
      rfl
  | pair request => rfl

/-! The lines. -/

theorem log_of_loaded {surroundings : Surroundings} {invocation : Invocation} {config : Config}
    (loaded : LoadsConfig surroundings.files invocation.config config) :
    (invocation.run surroundings).log =
      (config.recorder? surroundings.logVariable).elim [] fun recorder =>
        recorder.lines (invocation.request.answer surroundings).events := by
  have loads := load_config_of_loads loaded
  simp only [Invocation.run, loads]
  cases config.recorder? surroundings.logVariable <;> rfl

/-- Without directives of its own a run logs as its profile says, if it has one. -/
theorem recorder_of_profile (config : Config) :
    config.recorder? none =
      config.profile.bind fun profile =>
        profile.lineStyle?.map fun style => ⟨style, profile.defaultFilter⟩ := by
  unfold Config.recorder?
  cases config.profile with
  | none => rfl
  | some profile => cases profile <;> rfl

namespace Log

theorem Filter.admits_of_one (directive : Directive) (event : Event) :
    Filter.admits [directive] event =
      (directive.covers event && decide (event.level.rank ≤ directive.levelRank)) := by
  cases covered : directive.covers event <;>
    simp [Filter.admits, Filter.decisive, covered]

/-- The targets of the program and of its library begin alike. -/
def Event.IsOwn (event : Event) : Prop := ∃ rest, event.target = "autcmd" ++ rest

theorem Event.own_covered {event : Event} (own : event.IsOwn) (level : Option Level) :
    Directive.covers { target := some "autcmd", level } event = true := by
  obtain ⟨rest, isTarget⟩ := own
  simp [Directive.covers, isTarget, Condition.holds]

theorem Filter.own_admits {event : Event} (own : event.IsOwn) (level : Level) :
    Filter.admits [{ target := some "autcmd", level := some level }] event =
      decide (event.level.rank ≤ level.rank) := by
  rw [Filter.admits_of_one, Event.own_covered own, Bool.true_and]
  rfl

end Log

namespace Profile

/-- The finest level that the profile lets through. -/
def finestLevel : Profile → Log.Level
  | .development => .debug
  | .production | .test => .info

theorem default_filter_admits {event : Log.Event} (own : event.IsOwn) (profile : Profile) :
    profile.defaultFilter.admits event = decide (event.level.rank ≤ profile.finestLevel.rank) := by
  cases profile with
  | development => exact Log.Filter.own_admits own .debug
  | production => exact Log.Filter.own_admits own .info
  | test => exact Log.Filter.own_admits own .info

end Profile

theorem call_event_own (call : Call) (level : Log.Level) (name : String)
    (details : List (String × Log.Value)) : (call.event level name details).IsOwn :=
  ⟨"_core::serializer", rfl⟩

theorem announcement_own {request : Request} {event : Log.Event}
    (announced : event ∈ request.announcement) : event.IsOwn ∧ event.level = .debug := by
  cases request with
  | render command =>
      cases List.mem_singleton.mp announced
      exact ⟨⟨"_cli::commands::render", rfl⟩, rfl⟩
  | json file => cases announced
  | pair request => cases announced

theorem Call.opening_own (call : Call) : call.opening.IsOwn ∧ call.opening.level = .debug := by
  cases call <;> exact ⟨call_event_own _ _ _ _, rfl⟩

/-- Of the program's own events a profile writes those of its levels, in their order. -/
theorem profile_lines {events : List Log.Event} (own : ∀ event ∈ events, event.IsOwn)
    (profile : Profile) (style : Log.LineStyle) :
    Log.Recorder.lines ⟨style, profile.defaultFilter⟩ events =
      (events.filter fun event => event.level.rank ≤ profile.finestLevel.rank).map
        (Log.Line.mk style) := by
  have sameChoice : ∀ event ∈ events, profile.defaultFilter.admits event =
      decide (event.level.rank ≤ profile.finestLevel.rank) := by
    intro event member
    exact Profile.default_filter_admits (own event member) profile
  rw [Log.Recorder.lines, List.filter_congr sameChoice]

section

variable {surroundings : Surroundings} {invocation : Invocation} {config : Config} {call : Call}

theorem silent_without_style (unset : surroundings.logVariable = none)
    (loaded : LoadsConfig surroundings.files invocation.config config)
    (quiet : config.profile = none ∨ config.profile = some .test) :
    (invocation.run surroundings).log = [] := by
  rw [log_of_loaded loaded, unset, recorder_of_profile]
  rcases quiet with quiet | quiet
  · rw [quiet]
    rfl
  · rw [quiet]
    rfl

/-- A call logs its start and its end, behind the announcement, as far as the profile lets it. -/
theorem log_of_profile (unset : surroundings.logVariable = none)
    (loaded : LoadsConfig surroundings.files invocation.config config)
    (called : ComesToCall surroundings invocation.request call) {profile : Profile}
    {style : Log.LineStyle} (hasProfile : config.profile = some profile)
    (hasStyle : profile.lineStyle? = some style) {last : Log.Event} (lastOwn : last.IsOwn)
    (events : call.serialize.events = [call.opening, last]) :
    (invocation.run surroundings).log =
      ((invocation.request.announcement ++ [call.opening, last]).filter fun event =>
        event.level.rank ≤ profile.finestLevel.rank).map (Log.Line.mk style) := by
  have own : ∀ event ∈ invocation.request.announcement ++ [call.opening, last], event.IsOwn := by
    intro event member
    rcases List.mem_append.mp member with announced | ofCall
    · exact (announcement_own announced).1
    · rcases List.mem_cons.mp ofCall with rfl | isLast
      · exact call.opening_own.1
      · rw [List.mem_singleton.mp isLast]
        exact lastOwn
  rw [← profile_lines own, log_of_loaded loaded, unset, recorder_of_profile, hasProfile,
    answer_events_of_call called, events]
  simp only [Option.bind_some, hasStyle, Option.map_some, Option.elim_some]

end

/-- All events but the last are for debugging, so a level takes in all of them or none. -/
theorem events_at_level (request : Request) (call : Call) (last : Log.Event) (level : Log.Level) :
    ((request.announcement ++ [call.opening, last]).filter fun event =>
        event.level.rank ≤ level.rank) =
      (if Log.Level.debug.rank ≤ level.rank then request.announcement ++ [call.opening] else []) ++
        if last.level.rank ≤ level.rank then [last] else [] := by
  have debugOnly : ∀ event ∈ request.announcement ++ [call.opening], event.level = .debug := by
    intro event member
    rcases List.mem_append.mp member with announced | isOpening
    · exact (announcement_own announced).2
    · rw [List.mem_singleton.mp isOpening]
      exact call.opening_own.2
  have split : request.announcement ++ [call.opening, last] =
      (request.announcement ++ [call.opening]) ++ [last] := by
    simp only [List.append_assoc, List.singleton_append]
  rw [split, List.filter_append]
  congr 1
  · split_ifs with coarse
    · apply List.filter_eq_self.mpr
      intro event member
      rw [debugOnly event member]
      exact decide_eq_true coarse
    · apply List.filter_eq_nil_iff.mpr
      intro event member
      rw [debugOnly event member]
      simpa using coarse
  · simp only [List.filter_cons, List.filter_nil, decide_eq_true_eq]

theorem fails_early_or_calls (surroundings : Surroundings) (invocation : Invocation) :
    (∃ stage fault, FailsFirst surroundings invocation stage fault ∧ stage ≠ .serialize) ∨
      ∃ config call, LoadsConfig surroundings.files invocation.config config ∧
        ComesToCall surroundings invocation.request call := by
  rcases succeeds_or_fails surroundings invocation with
    ⟨config, call, tokens, succeeds⟩ | ⟨stage, fault, failed⟩
  · exact .inr ⟨config, call, succeeds.loaded, succeeds.called⟩
  · cases failed with
    | serialize loaded called refused => exact .inr ⟨_, _, loaded, called⟩
    | readConfig isNamed unreadable =>
        exact .inl ⟨_, _, .readConfig isNamed unreadable, by decide⟩
    | parseConfig isNamed isRead invalid =>
        exact .inl ⟨_, _, .parseConfig isNamed isRead invalid, by decide⟩
    | readCommand loaded isNamed unreadable =>
        exact .inl ⟨_, _, .readCommand loaded isNamed unreadable, by decide⟩
    | parseCommand loaded isNamed isRead invalid =>
        exact .inl ⟨_, _, .parseCommand loaded isNamed isRead invalid, by decide⟩

/-- Whatever a run logs is of the announcement or of its call. -/
theorem silent_or_calls (surroundings : Surroundings) (invocation : Invocation) :
    (invocation.run surroundings).log = [] ∨
      ∃ config call, LoadsConfig surroundings.files invocation.config config ∧
        ComesToCall surroundings invocation.request call ∧
        (invocation.run surroundings).log =
          (config.recorder? surroundings.logVariable).elim [] fun recorder =>
            recorder.lines (invocation.request.announcement ++ call.serialize.events) := by
  rcases fails_early_or_calls surroundings invocation with
    ⟨stage, fault, failed, early⟩ | ⟨config, call, loaded, called⟩
  · exact .inl ((run_of_fails_first failed).2 early)
  · refine .inr ⟨config, call, loaded, called, ?_⟩
    rw [log_of_loaded loaded, answer_events_of_call called]

/-- A run logs nothing unless its configuration names a profile and its request comes to a call.
For developers it then logs every event of the call behind the announcement, and in production the
failure of the call alone. -/
theorem run_logs_by_its_profile (surroundings : Surroundings) {args : List String}
    {invocation : Invocation} (unset : surroundings.logVariable = none)
    (accepted : CommandLine.parse args = .ok invocation) :
    let outcome := run surroundings args
    let fails := FailsFirst surroundings invocation
    let loads := LoadsConfig surroundings.files invocation.config
    let calls := ComesToCall surroundings invocation.request
    let announcement := invocation.request.announcement
    (invocation.config = none → outcome.log = []) ∧
    (∀ config, loads config → config.profile = none ∨ config.profile = some .test →
      outcome.log = []) ∧
    (∀ stage fault, fails stage fault → stage ≠ .serialize → outcome.log = []) ∧
    ((∃ stage fault, fails stage fault ∧ stage ≠ .serialize) ∨
      ∃ config call, loads config ∧ calls call) ∧
    ∀ config call, loads config → calls call →
      (∀ tokens, call.tokens = .ok tokens →
        outcome.status = 0 ∧
        (config.profile = some .development →
          outcome.log = (announcement ++ [call.opening, call.closing tokens]).map (.mk .plain)) ∧
        (config.profile = some .production → outcome.log = [])) ∧
      ∀ fault, call.tokens = .error fault →
        outcome.status = 1 ∧
        (config.profile = some .development →
          outcome.log = (announcement ++ [call.opening, call.refusal fault]).map (.mk .plain)) ∧
        (config.profile = some .production → outcome.log = [⟨.json, call.refusal fault⟩]) := by
  intro outcome fails loads calls announcement
  have isRun : outcome = invocation.run surroundings := run_of_accepted accepted
  rw [isRun]
  refine ⟨?_, ?_, ?_, ?_, ?_⟩
  · intro noFile
    have loaded : LoadsConfig surroundings.files invocation.config {} := by
      rw [noFile]
      exact .byDefault
    exact silent_without_style unset loaded (.inl rfl)
  · intro config loaded quiet
    exact silent_without_style unset loaded quiet
  · intro stage fault failed early
    exact (run_of_fails_first failed).2 early
  · exact fails_early_or_calls surroundings invocation
  · intro config call loaded called
    constructor
    · intro tokens answered
      have own : (call.closing tokens).IsOwn := call_event_own _ _ _ _
      have events := Call.events_of_answered answered
      refine ⟨(run_of_succeeds ⟨loaded, called, answered⟩).status, ?_, ?_⟩
      · intro developed
        rw [log_of_profile unset loaded called developed rfl own events, events_at_level]
        simp [Profile.finestLevel, Call.closing, Call.event, announcement]
      · intro produced
        rw [log_of_profile unset loaded called produced rfl own events, events_at_level]
        rfl
    · intro fault refused
      have own : (call.refusal fault).IsOwn := call_event_own _ _ _ _
      have events := Call.events_of_refused refused
      refine ⟨(run_of_fails_first (.serialize loaded called refused)).1.status, ?_, ?_⟩
      · intro developed
        rw [log_of_profile unset loaded called developed rfl own events, events_at_level]
        simp [Profile.finestLevel, Call.refusal, Call.event, announcement, Log.Level.rank]
      · intro produced
        rw [log_of_profile unset loaded called produced rfl own events, events_at_level]
        rfl

/-- A configuration for one of the profiles, wherever it is looked for. -/
def profileText (profile : Profile) : String := "logging.profile = '" ++ profile.name ++ "'\n"

def profileSurroundings (profile : Profile) : Surroundings :=
  { files := fun _ => .ok (profileText profile).toUTF8
    input := ByteArray.empty
    logVariable := none }

/-- A simulation that lacks its direction. -/
def aimlessCommand : Command :=
  { encoding := .explicitFa
    operation := .simulation
    options := none
    operands := ["a.fa"] }

def aimlessLine : List String := ["render", "-r", "EFA", "SIM", "a.fa", "--config", "log.toml"]

/-- In production the announcement and the start of the call are left out. -/
theorem aimless_command_in_production :
    (run (profileSurroundings .production) aimlessLine).log =
      [⟨.json, (Call.command aimlessCommand).refusal
        (.missingOptions "simulation" "direction")⟩] := by
  have accepted : CommandLine.parse aimlessLine =
      .ok { config := some "log.toml"
            format := .lines
            withProgram := false
            request := .render aimlessCommand } := rfl
  have loaded : LoadsConfig (profileSurroundings .production).files (some "log.toml")
      { profile := some .production } :=
    .fromFile (decode_text_of_utf8 (profileText .production)) rfl
  have logs := run_logs_by_its_profile (profileSurroundings .production) rfl accepted
  exact ((logs.2.2.2.2 _ _ loaded (.render _)).2 _ rfl).2.2 rfl

/-- In the morning of a leap day, after three milliseconds. -/
def leapDayReading : Log.Reading :=
  { moment :=
      { year := 2024, month := 2, day := 29, hour := 9, minute := 5, second := 7
        microsecond := 1230 }
    elapsed := 3 }

/-- The events of such a run, as they are written for developers where colors are forbidden. -/
example :
    (CommandLine.renderEvent aimlessCommand :: aimlessCommand.serialize.events).map (fun event =>
      event.plainLine (Log.showsStyles (some "1")) leapDayReading) =
      ["2024-02-29T09:05:07.001230Z DEBUG autcmd_cli::commands::render: " ++
          "rendering command from flags command=" ++
          "Command \x7b encoding: ExplicitFa, operation: Simulation, options: None, " ++
          "operands: [\"a.fa\"] \x7d",
        "2024-02-29T09:05:07.001230Z DEBUG autcmd_core::serializer: " ++
          "component=\"autcmd_core::serializer\" op=\"serialize_command\" event=\"start\" " ++
          "encoding=\"EFA\" operation=\"SIM\" operand_count=1",
        "2024-02-29T09:05:07.001230Z  WARN autcmd_core::serializer: " ++
          "component=\"autcmd_core::serializer\" op=\"serialize_command\" " ++
          "event=\"end_error\" duration_ms=3 " ++
          "err_kind=MissingOptions err_code=\"ERR_MISSING_OPTIONS\""] := by
  decide +kernel

end AutomataRequest

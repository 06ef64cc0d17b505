import AutomataRequest.Proofs.Log.RunLines
import AutomataRequest.Proofs.Text.StyleSequences

/-!
# One line an event

An event whose texts have no control characters is written without any, but for the sequences that
set the styles of a line for a reader. Of this kind are all events that a run logs: an operand
stands in one of them only, and it is quoted there. A log therefore falls apart at its line ends
into one line an event, whatever the operands.
-/

namespace AutomataRequest

open CommandLine (Invocation Request)
open Text

namespace Log

/-- A count is written in digits and a duration is measured, so neither has a text of its own. -/
def Value.IsClean : Value → Prop
  | .text value | .shown value => ControlFree value
  | .count _ | .elapsed => True

def IsCleanField (field : String × Value) : Prop := ControlFree field.1 ∧ field.2.IsClean

/-- None of the texts of the event has a control character. -/
structure Event.IsClean (event : Event) : Prop where
  target : ControlFree event.target
  message : ∀ message ∈ event.message, ControlFree message
  fields : ∀ field ∈ event.fields, IsCleanField field

theorem clean_field {name : String} {value : Value} (nameFree : ControlFree name)
    (clean : value.IsClean) : IsCleanField (name, value) :=
  ⟨nameFree, clean⟩

theorem Level.label_control_free (level : Level) : ControlFree level.label := by
  cases level <;> decide

/-! The clock. -/

theorem Moment.padded_control_free (width value : Nat) :
    ControlFree (Moment.padded width value) := by
  have zeros : IsControlFree (List.replicate (width - (Nat.toDigits 10 value).length) '0') := by
    intro char member
    rw [List.eq_of_mem_replicate member]
    decide
  rw [ControlFree, Moment.padded, String.toList_ofList]
  exact control_free_append_chars zeros (control_free_digits 10 value)

theorem Moment.year_control_free (year : Int) : ControlFree (Moment.yearText year) := by
  unfold Moment.yearText
  split_ifs
  · exact control_free_append (by decide) (control_free_nat_text _)
  · exact control_free_append (by decide) (Moment.padded_control_free 4 _)
  · exact Moment.padded_control_free 4 _

theorem Moment.date_control_free (moment : Moment) : ControlFree moment.dateText := by
  apply control_free_intercalate (by decide)
  simp only [List.forall_mem_cons]
  exact ⟨Moment.year_control_free _, Moment.padded_control_free 2 _,
    Moment.padded_control_free 2 _, List.forall_mem_nil _⟩

theorem Moment.time_control_free (moment : Moment) : ControlFree moment.timeText := by
  refine control_free_append (control_free_append ?_ (by decide)) (Moment.padded_control_free 6 _)
  apply control_free_intercalate (by decide)
  simp only [List.forall_mem_cons]
  exact ⟨Moment.padded_control_free 2 _, Moment.padded_control_free 2 _,
    Moment.padded_control_free 2 _, List.forall_mem_nil _⟩

theorem Moment.text_control_free (moment : Moment) : ControlFree moment.text :=
  control_free_append (control_free_append (control_free_append moment.date_control_free
    (by decide)) moment.time_control_free) (by decide)

/-! The values. -/

theorem Level.margin_control_free (level : Level) : ControlFree level.margin := by
  cases level <;> decide

section

variable {elapsed : String} (elapsedFree : ControlFree elapsed)
include elapsedFree

theorem Value.bare_control_free {value : Value} (clean : value.IsClean) :
    ControlFree (value.bare elapsed) := by
  cases value with
  | text value => exact clean
  | shown value => exact clean
  | count value => exact control_free_nat_text value
  | elapsed => exact elapsedFree

theorem Value.plain_control_free {value : Value} (clean : value.IsClean) :
    ControlFree (value.plainText elapsed) := by
  cases value with
  | text value => exact control_free_quote value
  | shown value => exact clean
  | count value => exact control_free_nat_text value
  | elapsed => exact elapsedFree

theorem Value.json_control_free {value : Value} (clean : value.IsClean) :
    ControlFree (value.jsonText elapsed) := by
  have bare := Value.bare_control_free elapsedFree clean
  cases value with
  | count value => exact control_free_nat_text value
  | text value => exact control_free_encode_text bare
  | shown value => exact control_free_encode_text bare
  | elapsed => exact control_free_encode_text bare

theorem Event.plain_entries_control_free {event : Event} (clean : event.IsClean) :
    ∀ entry ∈ event.plainEntries elapsed, ∀ part ∈ entry, ControlFree part.text := by
  intro entry isEntry
  rcases List.mem_append.mp isEntry with inMessage | inFields
  · obtain ⟨message, isMessage, rfl⟩ := List.mem_map.mp inMessage
    exact List.forall_mem_singleton.mpr (clean.message message (Option.mem_toList.mp isMessage))
  · obtain ⟨field, isField, rfl⟩ := List.mem_map.mp inFields
    obtain ⟨nameFree, valueClean⟩ := clean.fields field isField
    simp only [List.forall_mem_cons]
    exact ⟨nameFree, by decide, Value.plain_control_free elapsedFree valueClean,
      List.forall_mem_nil _⟩

theorem Event.plain_parts_control_free {event : Event} (clean : event.IsClean) :
    ∀ part ∈ event.plainParts elapsed, ControlFree part.text := by
  intro part isPart
  rcases List.mem_append.mp isPart with inTarget | inEntries
  · have target : ∀ part ∈ ([{ text := " " }, { style := .dimmed, text := event.target },
        { style := .dimmed, text := ":" }, { text := " " }] : List StyledPart),
        ControlFree part.text := by
      simp only [List.forall_mem_cons]
      exact ⟨by decide, clean.target, by decide, by decide, List.forall_mem_nil _⟩
    exact target part inTarget
  · have blank : ∀ part ∈ ([{ text := " " }] : List StyledPart), ControlFree part.text :=
      List.forall_mem_singleton.mpr (by decide)
    exact forall_mem_intercalate blank (Event.plain_entries_control_free elapsedFree clean)
      part inEntries

theorem Event.json_members_control_free {event : Event} (clean : event.IsClean) :
    ∀ member ∈ event.jsonMembers elapsed, ControlFree member.1 ∧ ControlFree member.2 := by
  have fields : ControlFree (Json.encodeObject
      (event.message.toList.map (fun message => ("message", Json.encodeText message)) ++
        event.fields.map fun field => (field.1, field.2.jsonText elapsed))) := by
    apply control_free_encode_object
    intro member isMember
    rcases List.mem_append.mp isMember with inMessage | inFields
    · obtain ⟨message, isMessage, rfl⟩ := List.mem_map.mp inMessage
      have nameFree : ControlFree "message" := by decide
      exact ⟨nameFree,
        control_free_encode_text (clean.message message (Option.mem_toList.mp isMessage))⟩
    · obtain ⟨field, isField, rfl⟩ := List.mem_map.mp inFields
      obtain ⟨nameFree, valueClean⟩ := clean.fields field isField
      exact ⟨nameFree, Value.json_control_free elapsedFree valueClean⟩
  simp only [Event.jsonMembers, List.forall_mem_cons]
  exact ⟨⟨by decide, control_free_encode_text event.level.label_control_free⟩,
    ⟨by decide, fields⟩, ⟨by decide, control_free_encode_text clean.target⟩, List.forall_mem_nil _⟩

end

/-! The lines. -/

section

variable {line : Line} (clean : line.event.IsClean) (reading : Reading)
include clean

theorem Line.text_control_free {elapsed : String} (elapsedFree : ControlFree elapsed) :
    ControlFree (line.text elapsed) := by
  obtain ⟨style, event⟩ := line
  cases style with
  | plain =>
      exact control_free_append event.level.label_control_free
        (control_free_parts (Event.plain_parts_control_free elapsedFree clean))
  | json =>
      exact control_free_encode_object (Event.json_members_control_free elapsedFree clean)

/-- The clock brings in none either. -/
theorem Line.unstyled_control_free : ControlFree (line.written false reading) := by
  have textFree := Line.text_control_free clean (control_free_nat_text reading.elapsed)
  have momentFree := reading.moment.text_control_free
  obtain ⟨style, event⟩ := line
  obtain ⟨plain, rest, isText, json⟩ := Line.written_with_text event reading
  cases style with
  | plain =>
      rw [plain]
      exact control_free_append (control_free_append (control_free_append momentFree (by decide))
        event.level.margin_control_free) textFree
  | json =>
      rw [isText, ControlFree, String.toList_append] at textFree
      have restFree : ControlFree rest := (List.forall_mem_append.mp textFree).2
      rw [json]
      exact control_free_append (control_free_append (control_free_append (control_free_append
        (control_free_append (by decide) (by decide)) (by decide))
        (control_free_encode_text momentFree)) (by decide)) restFree

omit clean in
theorem Line.is_styled (styled : Bool) :
    IsStyled (line.written false reading).toList (line.written styled reading).toList := by
  obtain ⟨style, event⟩ := line
  cases style with
  | plain => exact written_parts_is_styled _ styled
  | json => exact .refl _

theorem Line.only_escapes (styled : Bool) :
    ∀ char ∈ (line.written styled reading).toList, IsControl char → char = '\x1b' := by
  intro char member isControl
  rcases (line.is_styled reading styled).mem isControl member with inBare | isEscape
  · exact absurd isControl (line.unstyled_control_free clean reading char inBare)
  · exact isEscape

/-- Styles end no line. -/
theorem Line.no_line_end (styled : Bool) : '\n' ∉ (line.written styled reading).toList := by
  intro member
  have isEscape := line.only_escapes clean reading styled '\n' member (by decide)
  cases isEscape

end

/-- Without styles a line has no control character. It has styles only if it is for a reader and
colors are not forbidden, and they put in sequences of their own and nothing else. -/
structure Line.IsGuarded (line : Line) (noColor : Option String) (reading : Reading) : Prop where
  free : ControlFree (line.written false reading)
  styled : IsStyled (line.written false reading).toList
    (line.written (showsStyles noColor) reading).toList
  escapes : ∀ char ∈ (line.written (showsStyles noColor) reading).toList,
    IsControl char → char = '\x1b'
  unstyled : line.style = .json ∨ (∃ text, noColor = some text ∧ text ≠ "") →
    line.written (showsStyles noColor) reading = line.written false reading

theorem Line.is_guarded {line : Line} (clean : line.event.IsClean) (noColor : Option String)
    (reading : Reading) : line.IsGuarded noColor reading where
  free := line.unstyled_control_free clean reading
  styled := line.is_styled reading _
  escapes := line.only_escapes clean reading _
  unstyled := by
    rintro (isJson | ⟨text, rfl, notEmpty⟩)
    · simp only [Line.written, isJson]
    · have noStyles : showsStyles (some text) = false := by
        simpa [showsStyles, String.isEmpty_iff] using notEmpty
      rw [noStyles]

end Log

/-! The events of a run. -/

theorem Encoding.names_control_free (encoding : Encoding) :
    ControlFree encoding.token ∧ ControlFree encoding.label := by
  cases encoding <;> decide

theorem Operation.names_control_free (operation : Operation) :
    ControlFree operation.token ∧ ControlFree operation.label := by
  cases operation <;> decide

theorem Options.label_control_free (options : Options) : ControlFree options.label := by
  rcases options with direction | order
  · cases direction <;> decide
  · cases order <;> decide

theorem FaultKind.names_control_free (kind : FaultKind) :
    ControlFree kind.label ∧ ControlFree kind.code := by
  cases kind <;> decide

/-- The operands are quoted, and everything else in a shown command is one of finitely many
names. -/
theorem Command.label_control_free (command : Command) : ControlFree command.label := by
  have encoding := command.encoding.names_control_free.2
  have operation := command.operation.names_control_free.2
  have operands := control_free_quote_list command.operands
  unfold Command.label
  refine control_free_append (control_free_append (control_free_append (control_free_append
    (control_free_append (control_free_append (control_free_append (control_free_append
      ?_ encoding) ?_) operation) ?_) ?options) ?_) operands) ?_
  case options =>
    cases command.options with
    | none => decide
    | some options =>
        exact control_free_append
          (control_free_append (by decide) options.label_control_free) (by decide)
  all_goals decide

theorem announcement_clean {request : Request} {event : Log.Event}
    (announced : event ∈ request.announcement) : event.IsClean := by
  cases request with
  | render command =>
      cases List.mem_singleton.mp announced
      have texts : ControlFree CommandLine.renderTarget ∧
          ControlFree "rendering command from flags" := by decide
      exact
        { target := texts.1
          message := by
            rintro _ ⟨⟩
            exact texts.2
          fields := List.forall_mem_singleton.mpr
            (Log.clean_field (by decide) command.label_control_free) }
  | json file => cases announced
  | pair request => cases announced

namespace Call

theorem name_control_free (call : Call) : ControlFree call.name := by
  have names : ControlFree Log.commandCall ∧ ControlFree Log.pairCall := by decide
  cases call with
  | command given => exact names.1
  | pair given => exact names.2

theorem event_clean (call : Call) {level : Log.Level} {name : String}
    {details : List (String × Log.Value)} (nameFree : ControlFree name)
    (detailsClean : ∀ field ∈ details, Log.IsCleanField field) :
    (call.event level name details).IsClean := by
  have targetFree : ControlFree Log.tokensComponent := by decide
  refine
    { target := targetFree
      message := by rintro _ ⟨⟩
      fields := ?_ }
  simp only [event, List.forall_mem_append, List.forall_mem_cons]
  exact ⟨⟨Log.clean_field (by decide) targetFree,
    Log.clean_field (by decide) call.name_control_free, Log.clean_field (by decide) nameFree,
    List.forall_mem_nil _⟩, detailsClean⟩

theorem opening_clean (call : Call) : call.opening.IsClean := by
  cases call with
  | command given =>
      apply event_clean _ (by decide)
      simp only [List.forall_mem_cons]
      exact ⟨Log.clean_field (by decide) given.encoding.names_control_free.1,
        Log.clean_field (by decide) given.operation.names_control_free.1,
        Log.clean_field (by decide) trivial, List.forall_mem_nil _⟩
  | pair given =>
      apply event_clean _ (by decide)
      exact List.forall_mem_singleton.mpr
        (Log.clean_field (by decide) given.operation.names_control_free.1)

theorem closing_clean (call : Call) (tokens : List String) : (call.closing tokens).IsClean := by
  apply event_clean _ (by decide)
  simp only [List.forall_mem_cons]
  exact ⟨Log.clean_field (by decide) trivial, Log.clean_field (by decide) trivial,
    List.forall_mem_nil _⟩

theorem refusal_clean (call : Call) (fault : Fault) : (call.refusal fault).IsClean := by
  apply event_clean _ (by decide)
  simp only [List.forall_mem_cons]
  exact ⟨Log.clean_field (by decide) trivial,
    Log.clean_field (by decide) fault.kind.names_control_free.1,
    Log.clean_field (by decide) fault.kind.names_control_free.2, List.forall_mem_nil _⟩

theorem events_clean (call : Call) : ∀ event ∈ call.serialize.events, event.IsClean := by
  cases answer : call.tokens with
  | ok tokens =>
      rw [events_of_answered answer]
      simp only [List.forall_mem_cons]
      exact ⟨call.opening_clean, call.closing_clean tokens, List.forall_mem_nil _⟩
  | error fault =>
      rw [events_of_refused answer]
      simp only [List.forall_mem_cons]
      exact ⟨call.opening_clean, call.refusal_clean fault, List.forall_mem_nil _⟩

end Call

/-! The log as one text. -/

/-- The log as it is written, each line at its own moment. -/
def Outcome.logText (outcome : Outcome) (styled : Bool) (reading : Nat → Log.Reading) : String :=
  String.join (outcome.log.mapIdx fun number line => line.written styled (reading number) ++ "\n")

theorem logged_event_clean {surroundings : Surroundings} {args : List String} {line : Log.Line}
    (logged : line ∈ (run surroundings args).log) : line.event.IsClean := by
  cases parsed : CommandLine.parse args with
  | error rejection =>
      simp only [run, parsed] at logged
      cases rejection <;> cases logged
  | ok invocation =>
      rw [run_of_accepted parsed] at logged
      rcases silent_or_calls surroundings invocation with silent | ⟨config, call, _, _, log⟩
      · rw [silent] at logged
        cases logged
      · rw [log] at logged
        cases recorder : config.recorder? surroundings.logVariable with
        | none =>
            rw [recorder] at logged
            cases logged
        | some recorder =>
            rw [recorder, Option.elim_some] at logged
            obtain ⟨event, admitted, rfl⟩ := List.mem_map.mp logged
            rcases List.mem_append.mp (List.mem_filter.mp admitted).1 with announced | ofCall
            · exact announcement_clean announced
            · exact call.events_clean event ofCall

/-- Lines that hold no line end are found again where they were put together. -/
theorem split_log_text {outcome : Outcome} (clean : ∀ line ∈ outcome.log, line.event.IsClean)
    (styled : Bool) (reading : Nat → Log.Reading) :
    (outcome.logText styled reading).toList.splitOn '\n' =
      (outcome.log.mapIdx fun number line => (line.written styled (reading number)).toList) ++
        [[]] := by
  simp only [Outcome.logText, String.toList_join]
  generalize outcome.log = log at clean
  induction log generalizing reading with
  | nil => exact List.splitOn_nil '\n'
  | cons line log induction =>
      obtain ⟨lineClean, logClean⟩ := List.forall_mem_cons.mp clean
      have noLineEnd := line.no_line_end lineClean (reading 0) styled
      simp only [List.mapIdx_cons, List.flatMap_cons, String.toList_append, List.append_assoc,
        List.cons_append]
      rw [← induction (fun number => reading (number + 1)) logClean]
      exact List.splitOn_append_cons_self_of_not_mem noLineEnd _

end AutomataRequest

import AutomataRequest.Log.Session

/-!
# Records of calls

A call leaves two events behind: one that opens its record and one that closes it in agreement
with the answer. Both name the call, and neither shows what stands in the operands. The records of
a session follow each other as its calls do, so the events of one entry point are the records of
its own calls, in their order.
-/

namespace AutomataRequest

namespace Call

/-- What is said of a call when it begins. -/
def description : Call → List (String × String)
  | .command given =>
      [("encoding", given.encoding.token), ("operation", given.operation.token),
        ("operand_count", Number.natText given.operands.length)]
  | .pair given => [("operation", given.operation.token)]

/-- What is said of an answer that took some time. -/
def conclusion (time : String) : Except Fault (List String) → List (String × String)
  | .ok tokens =>
      [("event", "end"), ("duration_ms", time), ("token_count", Number.natText tokens.length)]
  | .error fault =>
      [("event", "end_error"), ("duration_ms", time), ("err_kind", fault.kind.label),
        ("err_code", fault.report.code)]

def conclusionLevel : Except Fault (List String) → Log.Level
  | .ok _ => .debug
  | .error _ => .warn

/-- The events of a call: all their fields, in whatever time it was answered. -/
structure IsRecord (call : Call) (opening closing : Log.Event) : Prop where
  openingLevel : opening.level = .debug
  openingFields : ∀ time, opening.bareFields time =
    [("component", "autcmd_core::serializer"), ("op", call.name), ("event", "start")] ++
      call.description
  closingLevel : closing.level = conclusionLevel call.tokens
  closingFields : ∀ time, closing.bareFields time =
    [("component", "autcmd_core::serializer"), ("op", call.name)] ++
      conclusion time call.tokens

theorem bracket_is_record (call : Call) {details : List (String × Log.Value)}
    (described : ∀ time, details.map (fun field => (field.1, field.2.bare time)) =
      call.description) :
    ∃ opening closing, (Log.bracket call.name details call.tokens).events = [opening, closing] ∧
      call.IsRecord opening closing := by
  refine ⟨_, _, rfl, ?_⟩
  refine
    { openingLevel := rfl
      openingFields := ?_
      closingLevel := ?_
      closingFields := ?_ }
  · intro time
    rw [← described time]
    rfl
  · cases call.tokens <;> rfl
  · intro time
    cases call.tokens <;> rfl

theorem events_are_record (call : Call) :
    ∃ opening closing, call.serialize.events = [opening, closing] ∧
      call.IsRecord opening closing := by
  cases call with
  | command given => exact bracket_is_record (.command given) fun time => rfl
  | pair given => exact bracket_is_record (.pair given) fun time => rfl

theorem serialize_result (call : Call) : call.serialize.result = call.tokens := by
  cases call <;> rfl

/-! Operands. -/

/-- The call with nothing in its operands. -/
def blanked : Call → Call
  | .command given => .command { given with operands := given.operands.map fun _ => "" }
  | .pair given => .pair { given with left := "", right := "" }

theorem tokens_length_blanked (call : Call) :
    call.blanked.tokens.map List.length = call.tokens.map List.length := by
  cases call with
  | command given =>
      simp only [blanked, tokens, Command.tokens]
      cases given.operation.optionTokens (some given.encoding) given.options with
      | error fault => rfl
      | ok option => simp [bind, Except.bind, pure, Except.pure, Except.map, operandTokens]
  | pair given =>
      simp only [blanked, tokens, PairRequest.tokens]
      cases given.operation.optionTokens none given.options with
      | error fault => rfl
      | ok option => simp [bind, Except.bind, pure, Except.pure, Except.map, operandTokens]

/-- Of an answer the events know whether it is a fault, and which, or else its length. -/
theorem bracket_events_of_length {name : String} {details : List (String × Log.Value)}
    {first second : Except Fault (List String)}
    (sameLength : first.map List.length = second.map List.length) :
    (Log.bracket name details first).events = (Log.bracket name details second).events := by
  cases first with
  | error fault =>
      cases second with
      | error other =>
          have sameFault : fault = other := Except.error.inj sameLength
          rw [sameFault]
      | ok tokens => cases sameLength
  | ok tokens =>
      cases second with
      | error fault => cases sameLength
      | ok others =>
          have same : tokens.length = others.length := Except.ok.inj sameLength
          simp only [Log.bracket, same]

theorem events_blanked (call : Call) : call.blanked.serialize.events = call.serialize.events := by
  have sameLength := call.tokens_length_blanked
  cases call with
  | command given =>
      have sameCount : (given.operands.map fun _ => "").length = given.operands.length := by simp
      simp only [blanked, serialize, Command.serialize, sameCount]
      exact bracket_events_of_length sameLength
  | pair given => exact bracket_events_of_length sameLength

end Call

namespace Log.Capture

theorem record_all_eq (capture : Capture) (calls : List Call) :
    capture.recordAll calls =
      (capture ++ calls.flatMap fun call => call.serialize.events, calls.map Call.tokens) := by
  induction calls generalizing capture with
  | nil => simp [recordAll]
  | cons call rest ih =>
      simp only [recordAll, record, ih, Call.serialize_result, List.flatMap_cons, List.map_cons,
        List.append_assoc]

variable {call : Call} {opening closing : Event}

theorem events_for_record (isRecord : call.IsRecord opening closing) (name : String) :
    eventsFor [opening, closing] name =
      if call.name == name then [opening, closing] else [] := by
  have openingCall : opening.call? noTime = some call.name := by
    rw [Event.call?, Event.field?, isRecord.openingFields]
    rfl
  have closingCall : closing.call? noTime = some call.name := by
    rw [Event.call?, Event.field?, isRecord.closingFields]
    rfl
  by_cases isOwn : call.name = name
  · simp [eventsFor, openingCall, closingCall, isOwn]
  · simp [eventsFor, openingCall, closingCall, isOwn]

theorem events_for_append (first second : Capture) (name : String) :
    eventsFor (first ++ second) name = first.eventsFor name ++ second.eventsFor name :=
  List.filter_append ..

theorem events_for_own_calls (calls : List Call) (name : String) :
    eventsFor (calls.flatMap fun call => call.serialize.events) name =
      (calls.filter fun call => call.name == name).flatMap fun call => call.serialize.events := by
  induction calls with
  | nil => rfl
  | cons call rest ih =>
      obtain ⟨opening, closing, events, isRecord⟩ := call.events_are_record
      rw [List.flatMap_cons, events_for_append, ih, events, events_for_record isRecord,
        List.filter_cons]
      by_cases isOwn : call.name == name
      · rw [if_pos isOwn, if_pos isOwn, List.flatMap_cons, events]
      · rw [if_neg isOwn, if_neg isOwn, List.nil_append]

/-! Balance. -/

theorem count_field_append (first second : Capture) (name text : String) :
    countField (first ++ second) name text =
      first.countField name text + second.countField name text := by
  simp [countField]

theorem count_record (isRecord : call.IsRecord opening closing) :
    countField [opening, closing] "event" "start" = 1 ∧
      countField [opening, closing] "event" "end" +
        countField [opening, closing] "event" "end_error" = 1 := by
  have opens : opening.field? noTime "event" = some "start" := by
    rw [Event.field?, isRecord.openingFields]
    rfl
  cases answer : call.tokens with
  | ok tokens =>
      have closes : closing.field? noTime "event" = some "end" := by
        rw [Event.field?, isRecord.closingFields, answer]
        rfl
      simp [countField, opens, closes]
  | error fault =>
      have closes : closing.field? noTime "event" = some "end_error" := by
        rw [Event.field?, isRecord.closingFields, answer]
        rfl
      simp [countField, opens, closes]

theorem count_calls (calls : List Call) :
    let capture : Capture := calls.flatMap fun call => call.serialize.events
    capture.countField "event" "start" = calls.length ∧
      capture.countField "event" "end" + capture.countField "event" "end_error" =
        calls.length := by
  induction calls with
  | nil => exact ⟨rfl, rfl⟩
  | cons call rest ih =>
      obtain ⟨opening, closing, events, isRecord⟩ := call.events_are_record
      obtain ⟨opened, closed⟩ := count_record isRecord
      obtain ⟨openedBefore, closedBefore⟩ := ih
      simp only [List.flatMap_cons, events, count_field_append, List.length_cons]
      omega

/-- A session answers every call as if nothing were captured, and captures one record a call. What
an operand holds is in no record. The events found for an entry point are the records of its own
calls, and every record that was opened was closed. -/
theorem calls_leave_bracketed_records (calls : List Call) :
    (recordAll [] calls).2 = calls.map Call.tokens ∧
    (recordAll [] calls).1 = (calls.flatMap fun call => call.serialize.events) ∧
    (∀ call : Call,
      (∃ opening closing, call.serialize.events = [opening, closing] ∧
        call.IsRecord opening closing) ∧
      call.blanked.serialize.events = call.serialize.events) ∧
    ∀ name,
      let own := calls.filter fun call => call.name == name
      let captured := eventsFor (recordAll [] calls).1 name
      captured = (own.flatMap fun call => call.serialize.events) ∧
      captured.countField "event" "start" = own.length ∧
      captured.countField "event" "end" + captured.countField "event" "end_error" =
        own.length := by
  rw [record_all_eq, List.nil_append]
  refine ⟨rfl, rfl, ?_, ?_⟩
  · intro call
    exact ⟨call.events_are_record, call.events_blanked⟩
  · intro name own captured
    have ownEvents : captured = own.flatMap fun call => call.serialize.events :=
      events_for_own_calls calls name
    rw [ownEvents]
    exact ⟨rfl, count_calls own⟩

end Log.Capture
end AutomataRequest

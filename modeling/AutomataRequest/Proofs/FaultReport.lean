import AutomataRequest.Fault

/-!
# What a report holds

A report is begun with a kind and filled in step by step, and each step writes one field. Whatever
the number and the order of the steps, a field holds what was written into it last, and the text of
the report shows the fields in an order of its own. The report of a fault is filled in the same way
and leaves out nothing that the fault says.
-/

namespace AutomataRequest

namespace FaultReport

inductive Field where
  | call
  | operation
  | token
  | message
  deriving DecidableEq, Repr

structure Step where
  field : Field
  value : String
  deriving DecidableEq, Repr

def take (report : FaultReport) (step : Step) : FaultReport :=
  match step.field with
  | .call => report.withCall step.value
  | .operation => report.withOperation step.value
  | .token => report.withToken step.value
  | .message => report.withMessage step.value

def takeAll (report : FaultReport) (steps : List Step) : FaultReport := steps.foldl take report

/-- What was written into a field last, searched for from the end. -/
def lastValue (field : Field) (steps : List Step) : Option String :=
  (steps.reverse.find? fun step => step.field = field).map Step.value

/-- A message is there from the beginning, though it is empty. -/
def content (report : FaultReport) : Field → Option String
  | .call => report.call
  | .operation => report.operation
  | .token => report.token
  | .message => some report.message

/-! One step. -/

theorem kind_take (report : FaultReport) (step : Step) : (report.take step).kind = report.kind := by
  obtain ⟨field, value⟩ := step
  cases field <;> rfl

/-- A step writes its field and leaves the others alone. -/
theorem content_take (report : FaultReport) (step : Step) (field : Field) :
    (report.take step).content field =
      if step.field = field then some step.value else report.content field := by
  obtain ⟨written, value⟩ := step
  cases written with
  | call => cases field <;> rfl
  | operation => cases field <;> rfl
  | token => cases field <;> rfl
  | message => cases field <;> rfl

/-- A report is its kind and what its fields hold. -/
theorem eq_of_content {first second : FaultReport} (sameKind : first.kind = second.kind)
    (sameContent : ∀ field, first.content field = second.content field) : first = second := by
  obtain ⟨kind, call, operation, token, message⟩ := first
  obtain ⟨kind', call', operation', token', message'⟩ := second
  have sameCall : call = call' := sameContent .call
  have sameOperation : operation = operation' := sameContent .operation
  have sameToken : token = token' := sameContent .token
  have sameMessage : message = message' := Option.some.inj (sameContent .message)
  have sameKind' : kind = kind' := sameKind
  subst sameKind' sameCall sameOperation sameToken sameMessage
  rfl

theorem take_comm (report : FaultReport) {first second : Step}
    (apart : first.field ≠ second.field) :
    (report.take first).take second = (report.take second).take first := by
  apply eq_of_content
  · simp only [kind_take]
  · intro field
    simp only [content_take]
    by_cases isFirst : first.field = field
    · have notSecond : second.field ≠ field := by
        intro isSecond
        exact apart (isFirst.trans isSecond.symm)
      simp only [if_pos isFirst, if_neg notSecond]
    · simp only [if_neg isFirst]

/-! All steps. -/

theorem kind_take_all (report : FaultReport) (steps : List Step) :
    (report.takeAll steps).kind = report.kind := by
  induction steps generalizing report with
  | nil => rfl
  | cons step steps induction =>
      change ((report.take step).takeAll steps).kind = report.kind
      rw [induction, kind_take]

theorem last_value_cons (field : Field) (step : Step) (steps : List Step) :
    lastValue field (step :: steps) =
      (lastValue field steps).or (if step.field = field then some step.value else none) := by
  rw [lastValue, List.reverse_cons, List.find?_append, Option.map_or]
  by_cases isField : step.field = field
  · simp [isField, lastValue]
  · simp [isField, lastValue]

/-- The last value that was written stands, or what was there before. -/
theorem content_take_all (report : FaultReport) (steps : List Step) (field : Field) :
    (report.takeAll steps).content field = (lastValue field steps).or (report.content field) := by
  induction steps generalizing report with
  | nil => rfl
  | cons step steps induction =>
      change ((report.take step).takeAll steps).content field = _
      rw [induction, content_take, last_value_cons, Option.or_assoc]
      by_cases isField : step.field = field
      · rw [if_pos isField, if_pos isField]
        rfl
      · rw [if_neg isField, if_neg isField]
        rfl

section OfSteps

variable (kind : FaultKind) (steps : List Step)

/-- A report that knows nothing but its kind, filled in step by step. -/
def ofSteps : FaultReport := (ofKind kind).takeAll steps

theorem kind_of_steps : (ofSteps kind steps).kind = kind := kind_take_all (ofKind kind) steps

theorem call_of_steps : (ofSteps kind steps).call = lastValue .call steps :=
  (content_take_all (ofKind kind) steps .call).trans Option.or_none

theorem operation_of_steps : (ofSteps kind steps).operation = lastValue .operation steps :=
  (content_take_all (ofKind kind) steps .operation).trans Option.or_none

theorem token_of_steps : (ofSteps kind steps).token = lastValue .token steps :=
  (content_take_all (ofKind kind) steps .token).trans Option.or_none

theorem message_of_steps :
    (ofSteps kind steps).message = (lastValue .message steps).getD "" := by
  have holds : some (ofSteps kind steps).message = (lastValue .message steps).or (some "") :=
    content_take_all (ofKind kind) steps .message
  cases written : lastValue .message steps with
  | none =>
      rw [written] at holds
      exact Option.some.inj holds
  | some message =>
      rw [written] at holds
      exact Option.some.inj holds

end OfSteps

theorem take_all_swap (report : FaultReport) (before behind : List Step) {first second : Step}
    (apart : first.field ≠ second.field) :
    report.takeAll (before ++ first :: second :: behind) =
      report.takeAll (before ++ second :: first :: behind) := by
  simp only [takeAll, List.foldl_append, List.foldl_cons]
  rw [take_comm _ apart]

/-! The text. -/

/-- A part of the text, if there is anything to show in it. -/
def part (before : String) (shown : Option String) (behind : String) : String :=
  match shown with
  | some value => before ++ value ++ behind
  | none => ""

theorem text_eq (report : FaultReport) :
    report.text = "[" ++ report.kind.code ++ "]" ++ part " in operation '" report.call "'" ++
      (if report.message = "" then "" else ": " ++ report.message) ++
      part " (operation: " report.operation ")" ++ part " (token: " report.token ")" := by
  have emptyIff : (report.message.isEmpty = true) = (report.message = "") := by
    rw [String.isEmpty_iff]
  unfold text
  simp only [emptyIff]
  rfl

end FaultReport

namespace Fault

/-- The text that was not understood. -/
def token? : Fault → Option String
  | .unknownEncoding token | .unknownOperation token
  | .unknownDirection token | .unknownOrder token => some token
  | .missingOptions _ _ | .invalidOptionsShape _ _ _
  | .invalidConfig _ | .serialization _ | .io _ => none

/-- The operation whose options are at fault. -/
def operation? : Fault → Option String
  | .missingOptions operation _ | .invalidOptionsShape operation _ _ => some operation
  | .unknownEncoding _ | .unknownOperation _ | .unknownDirection _ | .unknownOrder _
  | .invalidConfig _ | .serialization _ | .io _ => none

/-- A message opens with words of its own, whatever comes behind them. -/
theorem message_ne_empty (fault : Fault) : fault.message ≠ "" := by
  have opened {opening rest : String} (notEmpty : opening ≠ "") : opening ++ rest ≠ "" :=
    fun isEmpty => notEmpty (String.append_eq_empty_iff.mp isEmpty).1
  cases fault with
  | unknownEncoding token => exact opened (by decide)
  | unknownOperation token => exact opened (by decide)
  | unknownDirection token => exact opened (by decide)
  | unknownOrder token => exact opened (by decide)
  | missingOptions operation expected => exact opened (opened (opened (opened (by decide))))
  | invalidOptionsShape operation expected found =>
      exact opened (opened (opened (opened (opened (by decide)))))
  | invalidConfig text => exact opened (by decide)
  | serialization text => exact opened (by decide)
  | io text => exact opened (by decide)

/-- What the report of a fault holds. -/
structure IsReported (fault : Fault) (report : FaultReport) : Prop where
  kind : report.kind = fault.kind
  code : report.code = fault.kind.code
  call : report.call = none
  operation : report.operation = fault.operation?
  token : report.token = fault.token?
  message : report.message = fault.message
  text : report.text = "[" ++ fault.kind.code ++ "]: " ++ fault.message ++
    FaultReport.part " (operation: " fault.operation? ")" ++
    FaultReport.part " (token: " fault.token? ")"

theorem report_call (fault : Fault) : fault.report.call = none := by
  cases fault <;> rfl

theorem report_operation (fault : Fault) : fault.report.operation = fault.operation? := by
  cases fault <;> rfl

theorem report_token (fault : Fault) : fault.report.token = fault.token? := by
  cases fault <;> rfl

/-- The kind, the texts and the message of a fault are all in its report, and the message is never
left out of the report's text. -/
theorem report_is_reported (fault : Fault) : fault.IsReported fault.report where
  kind := fault.report_kind
  code := congrArg FaultKind.code fault.report_kind
  call := fault.report_call
  operation := fault.report_operation
  token := fault.report_token
  message := fault.report_message
  text := by
    have joined : "[" ++ fault.kind.code ++ "]" ++ "" ++ (": " ++ fault.message) =
        "[" ++ fault.kind.code ++ "]: " ++ fault.message := by
      have sameMark : "]: " = "]" ++ ": " := by decide
      rw [String.append_empty, sameMark]
      simp only [String.append_assoc]
    rw [FaultReport.text_eq, report_kind, report_call, report_operation, report_token,
      report_message, if_neg fault.message_ne_empty, ← joined]
    rfl

end Fault

/-- The report of a fault says all that the fault says. A report that is filled in by steps keeps
its kind, holds in each field what was written there last, and shows its fields in a fixed order,
of which a message that is empty is left out; steps that write different fields may change
places. -/
theorem reports_keep_every_fact :
    (∀ fault : Fault, fault.IsReported fault.report) ∧
    (∀ (kind : FaultKind) (steps : List FaultReport.Step),
      let report := FaultReport.ofSteps kind steps
      let message := (FaultReport.lastValue .message steps).getD ""
      report.kind = kind ∧ report.code = kind.code ∧
      report.call = FaultReport.lastValue .call steps ∧
      report.operation = FaultReport.lastValue .operation steps ∧
      report.token = FaultReport.lastValue .token steps ∧
      report.message = message ∧
      report.text = "[" ++ kind.code ++ "]" ++
        FaultReport.part " in operation '" (FaultReport.lastValue .call steps) "'" ++
        (if message = "" then "" else ": " ++ message) ++
        FaultReport.part " (operation: " (FaultReport.lastValue .operation steps) ")" ++
        FaultReport.part " (token: " (FaultReport.lastValue .token steps) ")") ∧
    (∀ (report : FaultReport) (before behind : List FaultReport.Step)
      (first second : FaultReport.Step), first.field ≠ second.field →
      report.takeAll (before ++ first :: second :: behind) =
        report.takeAll (before ++ second :: first :: behind)) := by
  refine ⟨Fault.report_is_reported, ?_, ?_⟩
  · intro kind steps report message
    have isKind : report.kind = kind := FaultReport.kind_of_steps kind steps
    have isCall : report.call = FaultReport.lastValue .call steps :=
      FaultReport.call_of_steps kind steps
    have isOperation : report.operation = FaultReport.lastValue .operation steps :=
      FaultReport.operation_of_steps kind steps
    have isToken : report.token = FaultReport.lastValue .token steps :=
      FaultReport.token_of_steps kind steps
    have isMessage : report.message = message := FaultReport.message_of_steps kind steps
    refine ⟨isKind, congrArg FaultKind.code isKind, isCall, isOperation, isToken, isMessage, ?_⟩
    rw [FaultReport.text_eq, isKind, isCall, isOperation, isToken, isMessage]
  · intro report before behind first second apart
    exact report.take_all_swap before behind apart

namespace FaultReport

/-- The first message and the first token are written over; the second message is empty. -/
def overwrittenSteps : List Step :=
  [⟨.message, "draft"⟩, ⟨.token, "utf8"⟩, ⟨.message, ""⟩, ⟨.token, "utf9"⟩, ⟨.call, "encode"⟩]

end FaultReport

theorem overwritten_report_shows_last_values :
    (FaultReport.ofSteps .unknownEncoding FaultReport.overwrittenSteps).text =
      "[ERR_UNKNOWN_ENCODING] in operation 'encode' (token: utf9)" ∧
    FaultReport.Field.token ≠ FaultReport.Field.call ∧
    (FaultReport.ofSteps .unknownEncoding FaultReport.overwrittenSteps =
      FaultReport.ofSteps .unknownEncoding
        [⟨.message, "draft"⟩, ⟨.token, "utf8"⟩, ⟨.message, ""⟩, ⟨.call, "encode"⟩,
          ⟨.token, "utf9"⟩]) ∧
    (Fault.unknownEncoding "").report.text =
      "[ERR_UNKNOWN_ENCODING]: Unknown encoding:  (token: )" := by
  have apart : FaultReport.Field.token ≠ FaultReport.Field.call := by decide
  obtain ⟨ofFaults, ofSteps, swaps⟩ := reports_keep_every_fact
  obtain ⟨-, -, -, -, -, -, isText⟩ := ofSteps .unknownEncoding FaultReport.overwrittenSteps
  refine ⟨isText.trans (by decide), apart, ?_, (ofFaults (.unknownEncoding "")).text.trans
    (by decide)⟩
  exact swaps (.ofKind .unknownEncoding)
    [⟨.message, "draft"⟩, ⟨.token, "utf8"⟩, ⟨.message, ""⟩] [] ⟨.token, "utf9"⟩ ⟨.call, "encode"⟩
    apart

end AutomataRequest

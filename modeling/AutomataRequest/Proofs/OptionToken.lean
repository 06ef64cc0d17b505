import AutomataRequest.Tokens

/-!
# The option token

The option of a request is seen from its kind. Options are accepted when they are of the kind that
the operation reads, and absent when it reads none; then the option token is one text, and
otherwise the fault is one value. Neither the operands nor the way in play a part.
-/

namespace AutomataRequest

/-- What a request comes to if its options are accepted. -/
theorem accepted_ok_iff {Value : Type} {accepted : Prop} [Decidable accepted]
    (value result : Value) (fault : Fault) :
    (if accepted then Except.ok value else .error fault) = .ok result ↔
      accepted ∧ result = value := by
  by_cases isAccepted : accepted
  · rw [if_pos isAccepted, Except.ok.injEq]
    exact ⟨fun same => ⟨isAccepted, same.symm⟩, fun same => same.2.symm⟩
  · rw [if_neg isAccepted]
    constructor
    · intro impossible
      cases impossible
    · intro given
      exact absurd given.1 isAccepted

namespace Operation

/-- Options are of the kind that the operation reads, or absent if it reads none. -/
def Accepts (operation : Operation) (options : Option Options) : Prop :=
  options.map Options.kind = operation.optionsKind?

instance (operation : Operation) (options : Option Options) :
    Decidable (operation.Accepts options) :=
  inferInstanceAs (Decidable (options.map Options.kind = operation.optionsKind?))

/-- The argument of the option flag for options that are accepted. -/
def optionText (operation : Operation) (encoding : Option Encoding) : Options → String
  | .direction direction =>
      match operation, encoding with
      | .simulation, some encoding => directionMark ++ direction.tokenFor encoding
      | _, _ => directionMark ++ direction.treeToken
  | .order order =>
      match operation with
      | .equivalence => orderMark ++ order.token
      | _ => directionMark ++ order.token

/-- What the faults of an operation name as expected. -/
def expectedName (operation : Operation) : String :=
  match operation.optionsKind? with
  | some kind => kind.name
  | none => "no"

/-- The fault of options that are not accepted. -/
def shapeFault (operation : Operation) : Option Options → Fault
  | none => .missingOptions operation.name operation.expectedName
  | some options => .invalidOptionsShape operation.name operation.expectedName options.kind.name

theorem option_token_eq (operation : Operation) (encoding : Option Encoding)
    (options : Option Options) :
    operation.optionToken encoding options =
      if operation.Accepts options then .ok (options.map (operation.optionText encoding))
      else .error (operation.shapeFault options) := by
  rcases options with _ | ⟨direction⟩ | ⟨order⟩
  · cases operation <;> rfl
  · cases operation with
    -- Only simulation looks at the encoding, once its options are accepted.
    | simulation => cases encoding <;> rfl
    | _ => rfl
  · cases operation <;> rfl

/-- The option flag with its argument, if there is one. -/
def optionPair : Option String → List String
  | some token => [optionFlag, token]
  | none => []

theorem option_tokens_eq (operation : Operation) (encoding : Option Encoding)
    (options : Option Options) :
    operation.optionTokens encoding options =
      if operation.Accepts options then
        .ok (optionPair (options.map (operation.optionText encoding)))
      else .error (operation.shapeFault options) := by
  rw [optionTokens, option_token_eq]
  by_cases accepted : operation.Accepts options
  · rw [if_pos accepted, if_pos accepted]
    cases options <;> rfl
  · rw [if_neg accepted, if_neg accepted]
    rfl

theorem accepts_none_iff (operation : Operation) :
    operation.Accepts none ↔ operation.optionsKind? = none := eq_comm

theorem accepts_some_iff (operation : Operation) (options : Options) :
    operation.Accepts (some options) ↔ operation.optionsKind? = some options.kind := eq_comm

end Operation

end AutomataRequest

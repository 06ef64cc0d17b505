import AutomataRequest.Log.Call
import AutomataRequest.Proofs.PairLine
import AutomataRequest.Proofs.ProgramLine

/-!
# One judgement of options

Options can be handed over on their own, with a command, with a pair, or with a command behind the
program of a configuration. Wherever they come in, they are accepted if they are of the kind that
the operation reads, and otherwise refused with one fault. The encoding, the operands and the
program have no say in it, and nothing of a line that was begun is left over.
-/

namespace AutomataRequest

/-- The places that take an operation with options, each with whatever else is given there. -/
inductive OptionsEntry where
  | alone (encoding : Option Encoding)
  | command (encoding : Encoding) (operands : List String)
  | pair (left right : String)
  | withProgram (config : Config) (encoding : Encoding) (operands : List String)

namespace OptionsEntry

/-- What comes of an operation with options at a place. -/
def answer (operation : Operation) (options : Option Options) :
    OptionsEntry → Except Fault (List String)
  | .alone encoding => operation.optionTokens encoding options
  | .command encoding operands =>
      (Command.serialize { encoding, operation, options, operands }).result
  | .pair left right => (PairRequest.serialize { operation, options, left, right }).result
  | .withProgram config encoding operands =>
      config.argv { encoding, operation, options, operands }

/-- The number of tokens at a place, those of the options apart. -/
def otherTokens : OptionsEntry → Nat
  | .alone _ => 0
  | .command _ operands => 3 + operands.length
  | .pair _ _ => 3
  | .withProgram _ _ operands => 1 + (3 + operands.length)

end OptionsEntry

/-- The flag and its argument, if there are options. -/
def optionTokenCount (options : Option Options) : Nat := if options.isSome then 2 else 0

namespace Operation

/-- A fault that names the operation, the kind that it reads, and the kind that was found. -/
inductive IsShapeFault (operation : Operation) : Option Options → Fault → Prop
  | missing {expected : OptionsKind} (isRead : operation.optionsKind? = some expected) :
      IsShapeFault operation none (.missingOptions operation.name expected.name)
  | otherKind {expected : OptionsKind} {given : Options}
      (isRead : operation.optionsKind? = some expected) (isOther : given.kind ≠ expected) :
      IsShapeFault operation (some given)
        (.invalidOptionsShape operation.name expected.name given.kind.name)
  | noneRead {given : Options} (isRead : operation.optionsKind? = none) :
      IsShapeFault operation (some given)
        (.invalidOptionsShape operation.name "no" given.kind.name)

variable {operation : Operation} {options : Option Options}

theorem shape_fault_of_refused (refused : ¬operation.Accepts options) :
    operation.IsShapeFault options (operation.shapeFault options) := by
  rw [Accepts] at refused
  cases isRead : operation.optionsKind? with
  | none =>
      cases options with
      | none => exact absurd isRead.symm refused
      | some given =>
          have fault : operation.shapeFault (some given) =
              .invalidOptionsShape operation.name "no" given.kind.name := by
            simp only [shapeFault, expectedName, isRead]
          rw [fault]
          exact .noneRead isRead
  | some expected =>
      have named : operation.expectedName = expected.name := by
        simp only [expectedName, isRead]
      cases options with
      | none =>
          rw [shapeFault, named]
          exact .missing isRead
      | some given =>
          have isOther : given.kind ≠ expected := by
            rintro rfl
            exact refused isRead.symm
          rw [shapeFault, named]
          exact .otherKind isRead isOther

theorem length_option_pair (encoding : Option Encoding) (options : Option Options) :
    (optionPair (options.map (operation.optionText encoding))).length =
      optionTokenCount options := by
  cases options <;> rfl

end Operation

namespace OptionsEntry

variable {operation : Operation} {options : Option Options}

theorem answer_of_refused (refused : ¬operation.Accepts options) (entry : OptionsEntry) :
    entry.answer operation options = .error (operation.shapeFault options) := by
  have commandRefused (encoding : Encoding) (operands : List String) :
      Command.tokens { encoding, operation, options, operands } =
        .error (operation.shapeFault options) := by
    rw [command_tokens_eq]
    exact if_neg refused
  cases entry with
  | alone encoding =>
      rw [answer, Operation.option_tokens_eq]
      exact if_neg refused
  | command encoding operands => exact commandRefused encoding operands
  | pair left right =>
      rw [answer, pair_serialize_result, pair_tokens_eq]
      exact if_neg refused
  | withProgram config encoding operands =>
      exact (config.argv_error_iff _ _).mpr (commandRefused encoding operands)

/-- Accepted options lengthen the line of every place by as much. -/
theorem answer_of_accepted (accepted : operation.Accepts options) (entry : OptionsEntry) :
    ∃ tokens, entry.answer operation options = .ok tokens ∧
      tokens.length = entry.otherTokens + optionTokenCount options := by
  have commandLine (encoding : Encoding) (operands : List String) :
      ∃ tokens, Command.tokens { encoding, operation, options, operands } = .ok tokens ∧
        tokens.length = 3 + operands.length + optionTokenCount options := by
    refine ⟨_, (command_tokens_ok_iff _ _).mpr ⟨accepted, rfl⟩, ?_⟩
    simp only [List.length_append, List.length_cons, List.length_nil,
      Operation.length_option_pair]
    omega
  cases entry with
  | alone encoding =>
      have isLine := Operation.option_tokens_eq operation encoding options
      rw [if_pos accepted] at isLine
      refine ⟨_, isLine, ?_⟩
      rw [Operation.length_option_pair, otherTokens, Nat.zero_add]
  | command encoding operands => exact commandLine encoding operands
  | pair left right =>
      have isLine := pair_tokens_eq { operation, options, left, right }
      rw [if_pos accepted] at isLine
      refine ⟨_, isLine, ?_⟩
      simp only [List.length_append, List.length_cons, List.length_nil,
        Operation.length_option_pair, otherTokens]
      omega
  | withProgram config encoding operands =>
      obtain ⟨tokens, answered, counted⟩ := commandLine encoding operands
      refine ⟨_, (config.argv_ok_iff _ _).mpr ⟨tokens, answered, rfl⟩, ?_⟩
      rw [List.length_cons, counted, otherTokens]
      omega

end OptionsEntry

/-- Options of the kind that an operation reads, or none where it reads none, are accepted at every
place and add two tokens or none. All others are refused at every place with one and the same
fault, which says what was expected and what was found. -/
theorem options_are_judged_alike_everywhere (operation : Operation) (options : Option Options) :
    if options.map Options.kind = operation.optionsKind? then
      ∀ entry : OptionsEntry, ∃ tokens, entry.answer operation options = .ok tokens ∧
        tokens.length = entry.otherTokens + optionTokenCount options
    else
      ∃ fault, operation.IsShapeFault options fault ∧
        ∀ entry : OptionsEntry, entry.answer operation options = .error fault := by
  split_ifs with accepted
  · exact OptionsEntry.answer_of_accepted accepted
  · exact ⟨operation.shapeFault options, Operation.shape_fault_of_refused accepted,
      OptionsEntry.answer_of_refused accepted⟩

/-- An order where a direction is expected, behind a program and in front of operands. -/
example :
    OptionsEntry.answer .simulation (some (.order .depthFirst))
        (.withProgram { program := "vata" } .explicitFa ["dir=FWD"]) =
      .error (.invalidOptionsShape "simulation" "direction" "order") := rfl

end AutomataRequest

import AutomataRequest.Proofs.Lookup
import AutomataRequest.Proofs.OptionToken

/-!
# The language of argument lists

A list is the tokens of a command exactly if it names an encoding and an operation behind the
encoding flag, has an option of the operation's row behind the option flag where the operation
reads one, and goes on with any operands. No mark stands between the option and the operands, and
operands may look like flags: what tells them apart is the operation alone, so every list of the
language is read back in one way only.
-/

namespace AutomataRequest

/-- All options of a kind. -/
def OptionsKind.values : OptionsKind → List Options
  | .direction => Direction.all.map .direction
  | .order => Order.all.map .order

theorem options_mem_values (options : Options) : options ∈ options.kind.values := by
  cases options with
  | direction direction => exact List.mem_map_of_mem direction.mem_all
  | order order => exact List.mem_map_of_mem order.mem_all

theorem kind_of_mem_values {kind : OptionsKind} {options : Options}
    (member : options ∈ kind.values) : options.kind = kind := by
  cases kind with
  | direction =>
      obtain ⟨direction, _, rfl⟩ := List.mem_map.mp member
      rfl
  | order =>
      obtain ⟨order, _, rfl⟩ := List.mem_map.mp member
      rfl

namespace Operation

/-- The option table: the arguments that an operation's option flag may have. -/
def optionValues : Operation → Encoding → List String
  | .simulation, .explicitFa => ["dir=FWD", "dir=BWD"]
  | .simulation, _ => ["dir=UP", "dir=DOWN"]
  | .reduction, _ => ["dir=UP", "dir=DOWN"]
  | .equivalence, _ => ["order=LEX", "order=DEPTH", "order=BREADTH"]
  | .inclusion, _ => ["dir=LEX", "dir=DEPTH", "dir=BREADTH"]
  | _, _ => []

/-- What may stand between an operation and its operands. -/
def IsOptionPair (operation : Operation) (encoding : Encoding) (pair : List String) : Prop :=
  match operation.optionsKind? with
  | none => pair = []
  | some _ => ∃ value ∈ operation.optionValues encoding, pair = ["-o", value]

theorem option_values_eq {operation : Operation} {kind : OptionsKind}
    (reads : operation.optionsKind? = some kind) (encoding : Encoding) :
    operation.optionValues encoding =
      kind.values.map (operation.optionText (some encoding)) := by
  cases operation <;> cases reads
  case simulation => cases encoding <;> rfl
  all_goals rfl

/-- The pairs of the table are the pairs of accepted options. -/
theorem is_option_pair_iff (operation : Operation) (encoding : Encoding) (pair : List String) :
    operation.IsOptionPair encoding pair ↔
      ∃ options, operation.Accepts options ∧
        pair = optionPair (options.map (operation.optionText (some encoding))) := by
  unfold IsOptionPair
  cases reads : operation.optionsKind? with
  | none =>
      constructor
      · intro empty
        exact ⟨none, operation.accepts_none_iff.mpr reads, empty⟩
      · rintro ⟨options, accepted, rfl⟩
        rw [Accepts, reads, Option.map_eq_none_iff] at accepted
        rw [accepted]
        rfl
  | some kind =>
      constructor
      · rintro ⟨value, member, rfl⟩
        rw [option_values_eq reads] at member
        obtain ⟨options, inKind, rfl⟩ := List.mem_map.mp member
        refine ⟨some options, ?_, rfl⟩
        rw [accepts_some_iff, kind_of_mem_values inKind, reads]
      · rintro ⟨options, accepted, rfl⟩
        rw [Accepts, reads, Option.map_eq_some_iff] at accepted
        obtain ⟨given, rfl, rfl⟩ := accepted
        refine ⟨operation.optionText (some encoding) given, ?_, rfl⟩
        rw [option_values_eq reads]
        exact List.mem_map_of_mem (options_mem_values given)

end Operation

/-- The argument lists that the automata tool understands. -/
def IsRequestLine (tokens : List String) : Prop :=
  ∃ (encoding : Encoding) (operation : Operation) (pair operands : List String),
    operation.IsOptionPair encoding pair ∧
      tokens = ["-r", encoding.token, operation.token] ++ pair ++ operands

/-- One equation for all commands: what counts of the options is whether they are accepted. -/
theorem command_tokens_eq (command : Command) :
    command.tokens =
      if command.operation.Accepts command.options then
        .ok (["-r", command.encoding.token, command.operation.token] ++
          Operation.optionPair
            (command.options.map (command.operation.optionText (some command.encoding))) ++
          command.operands)
      else .error (command.operation.shapeFault command.options) := by
  rw [Command.tokens, Operation.option_tokens_eq]
  by_cases accepted : command.operation.Accepts command.options
  · rw [if_pos accepted, if_pos accepted]
    rfl
  · rw [if_neg accepted, if_neg accepted]
    rfl

theorem command_tokens_ok_iff (command : Command) (tokens : List String) :
    command.tokens = .ok tokens ↔
      command.operation.Accepts command.options ∧
        tokens = ["-r", command.encoding.token, command.operation.token] ++
          Operation.optionPair
            (command.options.map (command.operation.optionText (some command.encoding))) ++
          command.operands := by
  rw [command_tokens_eq, accepted_ok_iff]

theorem exists_command_tokens_iff (tokens : List String) :
    (∃ command : Command, command.tokens = .ok tokens) ↔ IsRequestLine tokens := by
  constructor
  · rintro ⟨command, serialized⟩
    obtain ⟨accepted, rfl⟩ := (command_tokens_ok_iff command tokens).mp serialized
    refine ⟨command.encoding, command.operation, _, command.operands, ?_, rfl⟩
    rw [Operation.is_option_pair_iff]
    exact ⟨command.options, accepted, rfl⟩
  · rintro ⟨encoding, operation, pair, operands, isPair, rfl⟩
    rw [Operation.is_option_pair_iff] at isPair
    obtain ⟨options, accepted, rfl⟩ := isPair
    refine ⟨{ encoding, operation, options, operands }, ?_⟩
    rw [command_tokens_ok_iff]
    exact ⟨accepted, rfl⟩

/-! Reading back. -/

theorem Direction.of_tree_token (direction : Direction) :
    ofText direction.treeToken = .ok direction :=
  of_spelling direction (by simp [spellings])

theorem Direction.of_token_for (direction : Direction) (encoding : Encoding) :
    ofText (direction.tokenFor encoding) = .ok direction := by
  unfold tokenFor
  split
  · exact of_spelling direction (by simp [spellings])
  · exact of_tree_token direction

theorem option_value_direction_mark (value : String) :
    optionValue (directionMark ++ value) = value := by
  simp [optionValue, directionMark]

theorem option_value_order_mark (value : String) : optionValue (orderMark ++ value) = value := by
  simp [optionValue, orderMark]

/-- Behind its mark every table entry names the option it was written for, whichever table it is
from. -/
theorem options_of_value_text (operation : Operation) (encoding : Option Encoding)
    (options : Options) :
    Options.ofValue? options.kind (optionValue (operation.optionText encoding options)) =
      some options := by
  cases options with
  | direction direction =>
      simp only [Operation.optionText, Options.kind, Options.ofValue?]
      split
      · rw [option_value_direction_mark, Direction.of_token_for]
        rfl
      · rw [option_value_direction_mark, Direction.of_tree_token]
        rfl
  | order order =>
      simp only [Operation.optionText, Options.kind, Options.ofValue?]
      split
      · rw [option_value_order_mark, Order.of_token]
        rfl
      · rw [option_value_direction_mark, Order.of_token]
        rfl

theorem command_of_tokens {command : Command} {tokens : List String}
    (serialized : command.tokens = .ok tokens) : Command.ofTokens? tokens = some command := by
  obtain ⟨accepted, rfl⟩ := (command_tokens_ok_iff command tokens).mp serialized
  obtain ⟨encoding, operation, options, operands⟩ := command
  simp only [Command.ofTokens?, List.cons_append, List.nil_append, Encoding.of_token,
    Operation.of_token, Except.toOption, Option.bind_eq_bind, Option.bind_some]
  cases options with
  | none =>
      rw [operation.accepts_none_iff] at accepted
      simp only [accepted, Option.map_none, Operation.optionPair, List.nil_append]
  | some options =>
      rw [operation.accepts_some_iff] at accepted
      simp only [accepted, Option.map_some, Operation.optionPair, List.cons_append,
        List.nil_append, options_of_value_text, Option.bind_some]

/-- At most one command has given tokens, there is one exactly for the lists of the language, and
the spellings of its parts, with what is left as operands, are enough to find it. -/
theorem request_lines_are_uniquely_readable (tokens : List String) :
    (∀ first second : Command,
      first.tokens = .ok tokens → second.tokens = .ok tokens → first = second) ∧
    ((∃ command : Command, command.tokens = .ok tokens) ↔ IsRequestLine tokens) ∧
    ∀ command : Command, command.tokens = .ok tokens ↔
      IsRequestLine tokens ∧ Command.ofTokens? tokens = some command := by
  refine ⟨?_, exists_command_tokens_iff tokens, ?_⟩
  · intro first second firstTokens secondTokens
    have firstRead := command_of_tokens firstTokens
    rw [command_of_tokens secondTokens] at firstRead
    exact (Option.some.inj firstRead).symm
  · intro command
    constructor
    · intro serialized
      exact ⟨(exists_command_tokens_iff tokens).mp ⟨command, serialized⟩,
        command_of_tokens serialized⟩
    · rintro ⟨inLanguage, readBack⟩
      obtain ⟨other, serialized⟩ := (exists_command_tokens_iff tokens).mpr inLanguage
      rw [command_of_tokens serialized] at readBack
      rw [← Option.some.inj readBack]
      exact serialized

/-- Operands that repeat the flags and the option of their own command. -/
def imitatingCommand : Command where
  encoding := .explicitFa
  operation := .simulation
  options := some (.direction .forward)
  operands := ["-r", "-o", "dir=FWD", "", "-o"]

theorem imitating_command_is_read_back :
    imitatingCommand.tokens =
      .ok ["-r", "EFA", "SIM", "-o", "dir=FWD", "-r", "-o", "dir=FWD", "", "-o"] ∧
    Command.ofTokens? ["-r", "EFA", "SIM", "-o", "dir=FWD", "-r", "-o", "dir=FWD", "", "-o"] =
      some imitatingCommand :=
  ⟨rfl, (((request_lines_are_uniquely_readable _).2.2 imitatingCommand).mp rfl).2⟩

end AutomataRequest

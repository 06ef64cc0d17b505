import AutomataRequest.Proofs.RequestLine

/-!
# Lines of pairs

A request with two operands has a line of its own, without an encoding. It is the line of a
command less the encoding and its flag, and it is refused where the command is, for the same
reason. Only the simulation of explicit finite automata is written in another way: there the
encoding chooses the direction table, and a pair has no encoding to choose it by.
-/

namespace AutomataRequest

/-- The command that asks for the same under an encoding. -/
def PairRequest.withEncoding (request : PairRequest) (encoding : Encoding) : Command :=
  { encoding
    operation := request.operation
    options := request.options
    operands := [request.left, request.right] }

/-- The encoding chooses the direction table of the operation's option. -/
def UsesAutomatonTable (encoding : Encoding) (operation : Operation) : Prop :=
  encoding = .explicitFa ∧ operation = .simulation

namespace Operation

theorem token_for_other_encoding {encoding : Encoding} (other : encoding ≠ .explicitFa)
    (direction : Direction) : direction.tokenFor encoding = direction.treeToken := by
  have notAutomaton : encoding.isExplicitFa = false := beq_eq_false_iff_ne.mpr other
  rw [Direction.tokenFor, notAutomaton]
  rfl

/-- An encoding makes no difference to an option unless it chooses its table. -/
theorem option_text_without_encoding {operation : Operation} {encoding : Encoding}
    (sameTable : ¬UsesAutomatonTable encoding operation) :
    operation.optionText (some encoding) = operation.optionText none := by
  funext options
  cases options with
  | order order => rfl
  | direction direction =>
      cases operation with
      | simulation =>
          have other : encoding ≠ .explicitFa := fun same => sameTable ⟨same, rfl⟩
          simp only [optionText, token_for_other_encoding other]
      | _ => rfl

theorem simulation_accepts_iff (options : Option Options) :
    Operation.simulation.Accepts options ↔ ∃ direction, options = some (.direction direction) := by
  rcases options with _ | ⟨direction⟩ | ⟨order⟩ <;> simp [Accepts, optionsKind?, Options.kind]

end Operation

/-- The line of a pair, seen from its options as the line of a command is. -/
theorem pair_tokens_eq (request : PairRequest) :
    request.tokens =
      if request.operation.Accepts request.options then
        .ok (request.operation.token ::
          (Operation.optionPair (request.options.map (request.operation.optionText none)) ++
            [request.left, request.right]))
      else .error (request.operation.shapeFault request.options) := by
  rw [PairRequest.tokens, Operation.option_tokens_eq]
  by_cases accepted : request.operation.Accepts request.options
  · rw [if_pos accepted, if_pos accepted]
    rfl
  · rw [if_neg accepted, if_neg accepted]
    rfl

section

variable {request : PairRequest} {encoding : Encoding}

theorem both_refused (refused : ¬request.operation.Accepts request.options) :
    (request.withEncoding encoding).tokens =
        .error (request.operation.shapeFault request.options) ∧
      request.tokens = .error (request.operation.shapeFault request.options) := by
  rw [command_tokens_eq, pair_tokens_eq, if_neg refused]
  exact ⟨if_neg refused, rfl⟩

/-- Where the tables agree, the pair is the command without its encoding. -/
theorem command_tokens_of_pair (sameTable : ¬UsesAutomatonTable encoding request.operation)
    {tokens : List String} (serialized : request.tokens = .ok tokens) :
    (request.withEncoding encoding).tokens = .ok (["-r", encoding.token] ++ tokens) := by
  rw [pair_tokens_eq, accepted_ok_iff] at serialized
  obtain ⟨accepted, rfl⟩ := serialized
  rw [command_tokens_ok_iff, PairRequest.withEncoding,
    Operation.option_text_without_encoding sameTable]
  exact ⟨accepted, rfl⟩

/-- Two lines that name one direction by different entries of the tables, and agree in all else. -/
def DifferInTable (encoding : Encoding) (request : PairRequest) (whole alone : List String) :
    Prop :=
  ∃ direction value value',
    request.options = some (.direction direction) ∧
    whole = ["-r", encoding.token, request.operation.token, "-o", "dir=" ++ value,
      request.left, request.right] ∧
    alone = [request.operation.token, "-o", "dir=" ++ value', request.left, request.right] ∧
    value ≠ value' ∧
    Direction.ofText value = .ok direction ∧ Direction.ofText value' = .ok direction

theorem not_appended_of_differ {whole alone : List String}
    (differ : DifferInTable encoding request whole alone) :
    whole ≠ ["-r", encoding.token] ++ alone := by
  obtain ⟨direction, value, value', -, rfl, rfl, different, -, -⟩ := differ
  intro appended
  have sameOption : "dir=" ++ value = "dir=" ++ value' := by
    simpa using appended
  exact different (String.append_right_inj "dir=" |>.mp sameOption)

theorem lines_differ_in_table (otherTable : UsesAutomatonTable encoding request.operation)
    (accepted : request.operation.Accepts request.options) :
    ∃ whole alone, (request.withEncoding encoding).tokens = .ok whole ∧
      request.tokens = .ok alone ∧ DifferInTable encoding request whole alone := by
  obtain ⟨operation, options, left, right⟩ := request
  obtain ⟨rfl, rfl⟩ := otherTable
  obtain ⟨direction, rfl⟩ := (Operation.simulation_accepts_iff options).mp accepted
  refine ⟨_, _, rfl, rfl, direction, direction.automatonToken, direction.treeToken, rfl, rfl, rfl,
    ?_, ?_, ?_⟩
  · cases direction <;> decide
  · exact direction.of_spelling (by simp [Direction.spellings])
  · exact direction.of_tree_token

end

/-- A pair is read back as the command that it would be under an encoding without a table of its
own. -/
theorem pair_of_tokens {first second : PairRequest} {tokens : List String}
    (firstTokens : first.tokens = .ok tokens) (secondTokens : second.tokens = .ok tokens) :
    first = second := by
  have sameTable (operation : Operation) : ¬UsesAutomatonTable .explicit operation := by
    rintro ⟨impossible, -⟩
    cases impossible
  have firstRead := command_of_tokens (command_tokens_of_pair (sameTable _) firstTokens)
  have secondRead := command_of_tokens (command_tokens_of_pair (sameTable _) secondTokens)
  rw [secondRead] at firstRead
  have sameCommand := Option.some.inj firstRead
  exact (congrArg Command.pairRequest sameCommand).symm

/-- The line of a command begins with the encoding flag, which is no operation. -/
theorem pair_tokens_ne_command_tokens {command : Command} {request : PairRequest}
    {tokens : List String} (ofCommand : command.tokens = .ok tokens) :
    request.tokens ≠ .ok tokens := by
  intro ofPair
  rw [command_tokens_ok_iff] at ofCommand
  rw [pair_tokens_eq, accepted_ok_iff] at ofPair
  have sameHead : "-r" = request.operation.token := by
    have sameLine := ofCommand.2.symm.trans ofPair.2
    exact (List.cons.inj sameLine).1
  have notOperation : ∀ operation : Operation, "-r" ≠ operation.token := by
    intro operation
    cases operation <;> decide
  exact notOperation _ sameHead

/-- Under every encoding a pair and its command are refused for the same reason, or both are
written. Then the command's line is the pair's behind the encoding, except where the encoding has
a direction table of its own: there the two lines name the direction in different words. No line
stands for two pairs, and none for a pair and a command. -/
theorem pairs_are_commands_without_encoding :
    (∀ (request : PairRequest) (encoding : Encoding),
      (∃ fault, (request.withEncoding encoding).tokens = .error fault ∧
        request.tokens = .error fault) ∨
      ∃ whole alone, (request.withEncoding encoding).tokens = .ok whole ∧
        request.tokens = .ok alone ∧
        (whole = ["-r", encoding.token] ++ alone ↔
          ¬UsesAutomatonTable encoding request.operation) ∧
        (UsesAutomatonTable encoding request.operation →
          DifferInTable encoding request whole alone)) ∧
    (∀ (first second : PairRequest) (tokens : List String),
      first.tokens = .ok tokens → second.tokens = .ok tokens → first = second) ∧
    ∀ (command : Command) (request : PairRequest) (tokens : List String),
      command.tokens = .ok tokens → request.tokens ≠ .ok tokens := by
  refine ⟨?_, fun first second tokens => pair_of_tokens,
    fun command request tokens => pair_tokens_ne_command_tokens⟩
  intro request encoding
  by_cases accepted : request.operation.Accepts request.options
  · right
    by_cases otherTable : UsesAutomatonTable encoding request.operation
    · obtain ⟨whole, alone, ofCommand, ofPair, differ⟩ := lines_differ_in_table otherTable accepted
      refine ⟨whole, alone, ofCommand, ofPair, ?_, fun _ => differ⟩
      exact iff_of_false (not_appended_of_differ differ) (not_not_intro otherTable)
    · have ofPair := pair_tokens_eq request
      rw [if_pos accepted] at ofPair
      refine ⟨_, _, command_tokens_of_pair otherTable ofPair, ofPair, ?_, ?_⟩
      · exact iff_of_true rfl otherTable
      · intro used
        exact absurd used otherTable
  · left
    exact ⟨_, both_refused accepted⟩

/-- Operands that look like the start of another line. -/
def imitatingPair : PairRequest where
  operation := .simulation
  options := some (.direction .backward)
  left := "-r"
  right := "dir=BWD"

/-- With and without the encoding, the same direction is named in different words. -/
theorem imitating_pair_beside_command :
    imitatingPair.tokens = .ok ["SIM", "-o", "dir=DOWN", "-r", "dir=BWD"] ∧
    (imitatingPair.withEncoding .explicitFa).tokens =
      .ok ["-r", "EFA", "SIM", "-o", "dir=BWD", "-r", "dir=BWD"] ∧
    imitatingPair.tokens ≠ .ok ["-r", "EFA", "SIM", "-o", "dir=BWD", "-r", "dir=BWD"] :=
  ⟨rfl, rfl, pairs_are_commands_without_encoding.2.2 (imitatingPair.withEncoding .explicitFa)
    imitatingPair _ rfl⟩

end AutomataRequest

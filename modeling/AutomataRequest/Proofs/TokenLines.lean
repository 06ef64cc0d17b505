import AutomataRequest.Proofs.CommandLine.FrontEnds
import AutomataRequest.Proofs.PairLine
import AutomataRequest.Proofs.RunStages

/-!
# Tokens on lines

Tokens that are printed one to a line are told apart by line ends, and a token may hold line ends
of its own. So what is read back line by line is every token line by line, and that is the tokens
themselves exactly if each of them is one line. The program's own tokens are; only what it passes
on, the operands and the name of the configured program, adds lines to its output.
-/

namespace AutomataRequest

namespace Text

def lineEnd : Char := '\n'

/-- The lines of a text, without their ends. A text that ends with a line end ends with an empty
line. -/
def splitLines (text : String) : List String :=
  (text.toList.splitOn lineEnd).map String.ofList

def countLineEnds (text : String) : Nat := text.toList.count lineEnd

def countAllLineEnds : List String → Nat
  | [] => 0
  | text :: rest => countLineEnds text + countAllLineEnds rest

def IsOneLine (text : String) : Prop := lineEnd ∉ text.toList

instance (text : String) : Decidable (IsOneLine text) :=
  inferInstanceAs (Decidable (lineEnd ∉ text.toList))

theorem split_lines_joined (first second : String) :
    splitLines (first ++ "\n" ++ second) = splitLines first ++ splitLines second := by
  have chars : (first ++ "\n" ++ second).toList =
      first.toList ++ lineEnd :: second.toList := by
    simp [lineEnd]
  rw [splitLines, chars, List.splitOn_append_cons_self, List.map_append]
  rfl

theorem split_one_line {text : String} (oneLine : IsOneLine text) : splitLines text = [text] := by
  rw [splitLines, List.splitOn_eq_singleton oneLine, List.map_singleton, String.ofList_toList]

theorem line_without_end {chars : List Char} :
    ∀ line ∈ chars.splitOn lineEnd, lineEnd ∉ line := by
  induction chars with
  | nil => simp
  | cons char rest ih =>
      rw [List.splitOn_cons_eq_if_modifyHead]
      split_ifs with isEnd
      · exact List.forall_mem_cons.mpr ⟨List.not_mem_nil, ih⟩
      · cases lines : rest.splitOn lineEnd with
        | nil => exact absurd lines (List.splitOn_ne_nil _ _)
        | cons line others =>
            rw [lines] at ih
            obtain ⟨lineFree, othersFree⟩ := List.forall_mem_cons.mp ih
            refine List.forall_mem_cons.mpr ⟨?_, othersFree⟩
            rw [List.mem_cons, not_or]
            exact ⟨fun same => isEnd (beq_iff_eq.mpr same.symm), lineFree⟩

theorem one_line_of_mem_split {text line : String} (member : line ∈ splitLines text) :
    IsOneLine line := by
  obtain ⟨chars, isLine, rfl⟩ := List.mem_map.mp member
  rw [IsOneLine, String.toList_ofList]
  exact line_without_end chars isLine

theorem split_intercalated {texts : List String} (notEmpty : texts ≠ []) :
    splitLines ("\n".intercalate texts) = texts.flatMap splitLines := by
  induction texts with
  | nil => exact absurd rfl notEmpty
  | cons text rest ih =>
      cases rest with
      | nil => simp
      | cons next rest =>
          rw [String.intercalate_cons_cons, split_lines_joined, ih (List.cons_ne_nil _ _)]
          rfl

/-- The lines of some texts are the texts exactly if each text is one line. -/
theorem split_all_eq_iff (texts : List String) :
    texts.flatMap splitLines = texts ↔ ∀ text ∈ texts, IsOneLine text := by
  constructor
  · intro same text member
    rw [← same] at member
    obtain ⟨whole, _, isLine⟩ := List.mem_flatMap.mp member
    exact one_line_of_mem_split isLine
  · intro oneLine
    induction texts with
    | nil => rfl
    | cons text rest ih =>
        obtain ⟨first, others⟩ := List.forall_mem_cons.mp oneLine
        rw [List.flatMap_cons, split_one_line first, ih others]
        rfl

theorem count_line_ends_append (first second : String) :
    countLineEnds (first ++ second) = countLineEnds first + countLineEnds second := by
  rw [countLineEnds, String.toList_append, List.count_append]
  rfl

theorem count_all_line_ends_append (first second : List String) :
    countAllLineEnds (first ++ second) = countAllLineEnds first + countAllLineEnds second := by
  induction first with
  | nil => simp [countAllLineEnds]
  | cons text rest ih => simp [countAllLineEnds, ih, Nat.add_assoc]

theorem no_line_ends_of_one_line {texts : List String} (oneLine : ∀ text ∈ texts, IsOneLine text) :
    countAllLineEnds texts = 0 := by
  induction texts with
  | nil => rfl
  | cons text rest ih =>
      obtain ⟨first, others⟩ := List.forall_mem_cons.mp oneLine
      have none : countLineEnds text = 0 := List.count_eq_zero.mpr first
      rw [countAllLineEnds, none, ih others]

end Text

namespace OutputFormat

open Text

/-- Every token ends a line, beside the lines that it has itself. -/
theorem line_ends_of_lines {tokens : List String} (notEmpty : tokens ≠ []) :
    countLineEnds (lines.render tokens) = tokens.length + countAllLineEnds tokens := by
  have isEnd : countLineEnds "\n" = 1 := rfl
  rw [render, body, count_line_ends_append, isEnd]
  induction tokens with
  | nil => exact absurd rfl notEmpty
  | cons token rest ih =>
      cases rest with
      | nil => simp [countAllLineEnds, Nat.add_comm]
      | cons next rest =>
          have others := ih (List.cons_ne_nil _ _)
          rw [String.intercalate_cons_cons, count_line_ends_append, count_line_ends_append, isEnd,
            countAllLineEnds, List.length_cons]
          omega

end OutputFormat

/-! The tokens of a call. -/

namespace Operation

theorem option_text_one_line (operation : Operation) (encoding : Option Encoding)
    (options : Options) : Text.IsOneLine (operation.optionText encoding options) := by
  have treeValue (direction : Direction) :
      Text.IsOneLine (directionMark ++ direction.treeToken) := by
    cases direction <;> decide
  cases options with
  | direction direction =>
      simp only [optionText]
      split
      · rename_i encoding
        unfold Direction.tokenFor
        split
        · cases direction <;> decide
        · exact treeValue direction
      · exact treeValue direction
  | order order =>
      simp only [optionText]
      split
      · cases order <;> decide
      · cases order <;> decide

theorem option_pair_one_line (operation : Operation) (encoding : Option Encoding)
    (options : Option Options) :
    ∀ token ∈ optionPair (options.map (operation.optionText encoding)), Text.IsOneLine token := by
  cases options with
  | none => exact List.forall_mem_nil _
  | some options =>
      have isFlag : Text.IsOneLine optionFlag := by decide
      exact List.forall_mem_cons.mpr ⟨isFlag,
        List.forall_mem_singleton.mpr (operation.option_text_one_line encoding options)⟩

theorem token_one_line (operation : Operation) : Text.IsOneLine operation.token := by
  cases operation <;> decide

end Operation

theorem Encoding.token_one_line (encoding : Encoding) : Text.IsOneLine encoding.token := by
  cases encoding <;> decide

namespace Call

def operands : Call → List String
  | .command given => given.operands
  | .pair given => [given.left, given.right]

/-- Before the operands stand one or more tokens that are words of the automata tool. -/
theorem tokens_before_operands {call : Call} {tokens : List String}
    (answered : call.tokens = .ok tokens) :
    ∃ words, tokens = words ++ call.operands ∧ words ≠ [] ∧ ∀ word ∈ words, Text.IsOneLine word := by
  cases call with
  | command given =>
      obtain ⟨-, rfl⟩ := (command_tokens_ok_iff given tokens).mp answered
      refine ⟨_, rfl, by simp, List.forall_mem_append.mpr ⟨?_, ?_⟩⟩
      · simp only [List.forall_mem_cons]
        exact ⟨by decide, given.encoding.token_one_line, given.operation.token_one_line,
          List.forall_mem_nil _⟩
      · exact given.operation.option_pair_one_line _ _
  | pair given =>
      have written := pair_tokens_eq given
      rw [show given.tokens = .ok tokens from answered] at written
      obtain ⟨-, rfl⟩ := (accepted_ok_iff _ _ _).mp written.symm
      refine ⟨given.operation.token :: _, rfl, List.cons_ne_nil _ _, ?_⟩
      exact List.forall_mem_cons.mpr ⟨given.operation.token_one_line,
        given.operation.option_pair_one_line _ _⟩

theorem line_ends_of_tokens {call : Call} {tokens : List String}
    (answered : call.tokens = .ok tokens) :
    tokens ≠ [] ∧ Text.countAllLineEnds tokens = Text.countAllLineEnds call.operands := by
  obtain ⟨words, rfl, notEmpty, oneLine⟩ := tokens_before_operands answered
  refine ⟨List.append_ne_nil_of_left_ne_nil notEmpty _, ?_⟩
  rw [Text.count_all_line_ends_append, Text.no_line_ends_of_one_line oneLine, Nat.zero_add]

end Call

/-- Read back line by line, printed tokens are every token line by line, and they are the tokens
again exactly if no token holds a line end. So a run prints one line end for every token, and more
only for those in its operands, and in the name of the program if that is printed. -/
theorem lines_output_is_every_token_by_lines :
    (∀ tokens : List String, tokens ≠ [] →
      ∃ text, OutputFormat.lines.render tokens = text ++ "\n" ∧
        Text.splitLines text = tokens.flatMap Text.splitLines ∧
        (Text.splitLines text = tokens ↔ ∀ token ∈ tokens, '\n' ∉ token.toList)) ∧
    ∀ (surroundings : Surroundings) (args : List String) (invocation : CommandLine.Invocation),
      CommandLine.parse args = .ok invocation → invocation.format = .lines →
      (run surroundings args).status = 0 →
      (∃ config call tokens, Succeeds surroundings invocation config call tokens) ∧
      ∀ config call tokens, Succeeds surroundings invocation config call tokens →
        let program := if CommandLine.givesProgram args then [config.program] else []
        Text.countLineEnds (run surroundings args).out =
          (program ++ tokens).length + Text.countAllLineEnds call.operands +
            Text.countAllLineEnds program := by
  constructor
  · intro tokens notEmpty
    have splits := Text.split_intercalated notEmpty
    refine ⟨"\n".intercalate tokens, rfl, splits, ?_⟩
    rw [splits]
    exact Text.split_all_eq_iff tokens
  · intro surroundings args invocation accepted isLines endsWell
    rw [run_of_accepted accepted] at endsWell ⊢
    constructor
    · apply (succeeds_or_fails surroundings invocation).resolve_right
      rintro ⟨stage, fault, fails⟩
      rw [(run_of_fails_first fails).1.status] at endsWell
      cases endsWell
    · intro config call tokens succeeds program
      have isPrinted : invocation.output config tokens =
          OutputFormat.lines.render (program ++ tokens) := by
        rw [CommandLine.Invocation.output, isLines, CommandLine.parse_program accepted]
        simp only [program]
        split_ifs <;> rfl
      obtain ⟨notEmpty, ofOperands⟩ := Call.line_ends_of_tokens succeeds.answered
      rw [(run_of_succeeds succeeds).out, isPrinted,
        OutputFormat.line_ends_of_lines (List.append_ne_nil_of_right_ne_nil _ notEmpty),
        Text.count_all_line_ends_append, ofOperands]
      omega

def brokenText : String := "tool.program = \"my\\nvata\"\n"

/-- Every path leads to a configuration whose program is named on two lines. -/
def brokenSurroundings : Surroundings :=
  { files := fun _ => .ok brokenText.toUTF8
    input := ByteArray.empty
    logVariable := none }

def brokenCommand : Command :=
  { encoding := .explicit
    operation := .load
    options := none
    operands := ["a\nb", "\n"] }

def brokenInvocation : CommandLine.Invocation :=
  { config := some "tool.toml"
    format := .lines
    withProgram := true
    request := .render brokenCommand }

def brokenArguments : List String :=
  ["--with-program", "--config", "tool.toml", "render", "-r", "EXPL", "load", "--", "a\nb", "\n"]

/-- Six tokens, two line ends in the operands and one in the program. -/
theorem broken_tokens_take_more_lines :
    CommandLine.parse brokenArguments = .ok brokenInvocation ∧
      Text.countLineEnds (run brokenSurroundings brokenArguments).out = 6 + 2 + 1 ∧
      ∃ text, OutputFormat.lines.render brokenCommand.operands = text ++ "\n" ∧
        Text.splitLines text = ["a", "b", "", ""] := by
  have accepted : CommandLine.parse brokenArguments = .ok brokenInvocation := rfl
  have loaded : LoadsConfig brokenSurroundings.files brokenInvocation.config
      { program := "my\nvata" } :=
    .fromFile (decode_text_of_utf8 brokenText) rfl
  have succeeds : Succeeds brokenSurroundings brokenInvocation { program := "my\nvata" }
      (.command brokenCommand) ["-r", "EXPL", "LOAD", "a\nb", "\n"] :=
    ⟨loaded, .render brokenCommand, rfl⟩
  have endsWell : (run brokenSurroundings brokenArguments).status = 0 := by
    rw [run_of_accepted accepted]
    exact (run_of_succeeds succeeds).status
  obtain ⟨everyToken, counted⟩ := lines_output_is_every_token_by_lines
  obtain ⟨text, isText, splits, -⟩ := everyToken brokenCommand.operands (List.cons_ne_nil _ _)
  refine ⟨accepted, ?_, text, isText, ?_⟩
  · exact (counted _ _ _ accepted rfl endsWell).2 _ _ _ succeeds
  · rw [splits]
    decide

end AutomataRequest

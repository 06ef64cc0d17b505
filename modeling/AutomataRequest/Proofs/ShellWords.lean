import AutomataRequest.Output

/-!
# Shell words

Shell output is safe and loses nothing. A quoted word takes the reader from one word boundary to
the next with exactly the word in hand, whatever its characters are; so a printed list of tokens
is one command with these tokens as its words. What stands outside the quotes is known piece by
piece, and none of it could mean more to a shell than a blank, a literal quote or the end.
-/

namespace AutomataRequest.Text

namespace OpenCommand

theorem open_word_add_char (command : OpenCommand) (char : Char) :
    (command.addChar char).openWord = command.addChar char := rfl

theorem add_char_begun (words : List (List Char)) (begun : List Char) (char : Char) :
    OpenCommand.addChar ⟨words, some begun⟩ char = ⟨words, some (begun ++ [char])⟩ := rfl

end OpenCommand

/-! Reading words back. -/

/-- A quote leaves the quoted stretch and comes back to it with the word still open. -/
theorem read_quoted_char (command : OpenCommand) (char : Char) (rest : List Char) :
    readCommands .quoted command (quoteWordChar char ++ rest) =
      readCommands .quoted (command.addChar char) rest := by
  by_cases isQuote : char = '\''
  · subst isQuote
    simp [quoteWordChar, readCommands, OpenCommand.open_word_add_char]
  · simp [quoteWordChar, readCommands, isQuote]

theorem read_quoted_chars (words : List (List Char)) (begun word rest : List Char) :
    readCommands .quoted ⟨words, some begun⟩ (word.flatMap quoteWordChar ++ rest) =
      readCommands .quoted ⟨words, some (begun ++ word)⟩ rest := by
  induction word generalizing begun with
  | nil => simp
  | cons char word ih =>
      rw [List.flatMap_cons, List.append_assoc, read_quoted_char, OpenCommand.add_char_begun, ih,
        List.append_assoc, List.singleton_append]

theorem read_quoted_word (words : List (List Char)) (word rest : List Char) :
    readCommands .plain ⟨words, none⟩ (quoteWordChars word ++ rest) =
      readCommands .plain ⟨words, some word⟩ rest := by
  have opened : readCommands .plain ⟨words, none⟩ (quoteWordChars word ++ rest) =
      readCommands .quoted ⟨words, some []⟩ (word.flatMap quoteWordChar ++ '\'' :: rest) := by
    simp [quoteWordChars, readCommands, OpenCommand.openWord]
  rw [opened, read_quoted_chars, List.nil_append]
  simp [readCommands]

theorem read_quoted_words (words given : List (List Char)) :
    readCommands .plain ⟨words, none⟩
      ([' '].intercalate (given.map quoteWordChars) ++ ['\n']) = some [words ++ given] := by
  induction given generalizing words with
  | nil => simp [readCommands, OpenCommand.closeWord, OpenCommand.empty]
  | cons word given ih =>
      cases given with
      | nil =>
          rw [List.map_singleton, List.intercalate_singleton, read_quoted_word]
          simp [readCommands, OpenCommand.closeWord, OpenCommand.empty]
      | cons next given =>
          have separated : readCommands .plain ⟨words, some word⟩
              ([' '] ++ ([' '].intercalate ((next :: given).map quoteWordChars) ++ ['\n'])) =
              readCommands .plain ⟨words ++ [word], none⟩
                ([' '].intercalate ((next :: given).map quoteWordChars) ++ ['\n']) := by
            simp [readCommands, OpenCommand.closeWord]
          rw [List.map_cons, List.map_cons, List.intercalate_cons_cons, ← List.map_cons]
          rw [List.append_assoc, List.append_assoc, read_quoted_word, separated, ih,
            List.append_assoc, List.singleton_append]

/-! What stands outside the quotes. -/

/-- A piece of a text outside single quotes: a character behind a backslash, or one that the
shell takes for what it means. -/
inductive BarePiece where
  | escaped (char : Char)
  | active (char : Char)
  deriving DecidableEq, Repr

/-- The pieces of a text outside single quotes, in their order. -/
def barePieces : ShellMode → List Char → List BarePiece
  | _, [] => []
  | .quoted, char :: rest =>
      if char = '\'' then barePieces .plain rest else barePieces .quoted rest
  | .escaped, char :: rest => .escaped char :: barePieces .plain rest
  | .plain, char :: rest =>
      if char = '\'' then barePieces .quoted rest
      else if char = '\\' then barePieces .escaped rest
      else .active char :: barePieces .plain rest

/-- A quoted word shows its quotes and nothing else of itself. -/
def bareQuotes (word : List Char) : List BarePiece :=
  List.replicate (word.count '\'') (.escaped '\'')

theorem bare_pieces_quoted_char (char : Char) (rest : List Char) :
    barePieces .quoted (quoteWordChar char ++ rest) =
      bareQuotes [char] ++ barePieces .quoted rest := by
  by_cases isQuote : char = '\''
  · subst isQuote
    simp [quoteWordChar, barePieces, bareQuotes]
  · simp [quoteWordChar, barePieces, bareQuotes, isQuote]

theorem bare_quotes_cons (char : Char) (word : List Char) :
    bareQuotes (char :: word) = bareQuotes [char] ++ bareQuotes word := by
  rw [bareQuotes, bareQuotes, bareQuotes, List.replicate_append_replicate, ← List.count_append,
    List.singleton_append]

theorem bare_pieces_quoted_chars (word rest : List Char) :
    barePieces .quoted (word.flatMap quoteWordChar ++ rest) =
      bareQuotes word ++ barePieces .quoted rest := by
  induction word with
  | nil => rfl
  | cons char word ih =>
      rw [List.flatMap_cons, List.append_assoc, bare_pieces_quoted_char, ih,
        bare_quotes_cons char word, List.append_assoc]

theorem bare_pieces_quoted_word (word rest : List Char) :
    barePieces .plain (quoteWordChars word ++ rest) =
      bareQuotes word ++ barePieces .plain rest := by
  have opened : barePieces .plain (quoteWordChars word ++ rest) =
      barePieces .quoted (word.flatMap quoteWordChar ++ '\'' :: rest) := by
    simp [quoteWordChars, barePieces]
  rw [opened, bare_pieces_quoted_chars]
  simp [barePieces]

theorem bare_pieces_quoted_words (given : List (List Char)) :
    barePieces .plain ([' '].intercalate (given.map quoteWordChars) ++ ['\n']) =
      [.active ' '].intercalate (given.map bareQuotes) ++ [.active '\n'] := by
  induction given with
  | nil => simp [barePieces]
  | cons word given ih =>
      cases given with
      | nil =>
          rw [List.map_singleton, List.map_singleton, List.intercalate_singleton,
            List.intercalate_singleton, bare_pieces_quoted_word]
          simp [barePieces]
      | cons next given =>
          have separated : barePieces .plain
              ([' '] ++ ([' '].intercalate ((next :: given).map quoteWordChars) ++ ['\n'])) =
              .active ' ' :: barePieces .plain
                ([' '].intercalate ((next :: given).map quoteWordChars) ++ ['\n']) := by
            simp [barePieces]
          rw [List.map_cons, List.map_cons, List.intercalate_cons_cons, ← List.map_cons]
          rw [List.append_assoc, List.append_assoc, bare_pieces_quoted_word, separated, ih]
          simp

end AutomataRequest.Text

namespace AutomataRequest.OutputFormat

theorem shell_render_chars (tokens : List String) :
    (shell.render tokens).toList =
      [' '].intercalate ((tokens.map String.toList).map Text.quoteWordChars) ++ ['\n'] := by
  simp [render, body, Text.quoteWord, Function.comp_def]

/-- Printed tokens are one command with the tokens as its words. Outside the quotes there are the
spaces between them, the quotes of each token behind backslashes, and the newline at the end. -/
theorem shell_output_is_one_safe_command (tokens : List String) :
    Text.commands (shell.render tokens) = some [tokens] ∧
      Text.barePieces .plain (shell.render tokens).toList =
        [.active ' '].intercalate (tokens.map fun token => Text.bareQuotes token.toList) ++
          [.active '\n'] := by
  constructor
  · rw [Text.commands, shell_render_chars]
    have read := Text.read_quoted_words [] (tokens.map String.toList)
    rw [List.nil_append] at read
    rw [Text.OpenCommand.empty, read]
    simp
  · rw [shell_render_chars, Text.bare_pieces_quoted_words, List.map_map]
    rfl

end AutomataRequest.OutputFormat

/-!
Words of a shell command. `quoteWord` writes a word that a shell reads back as it was, and
`commands` reads words by the rules a POSIX shell follows: blanks separate words, a newline
ends the command, a single-quoted stretch is literal, a backslash makes the next character
literal, and neighbouring pieces join into one word.
-/

namespace AutomataRequest.Text

/-- A quote inside the word closes the quotes, is escaped, and opens them again. -/
def quoteWordChar (char : Char) : List Char :=
  if char = '\'' then ['\'', '\\', '\'', '\''] else [char]

def quoteWordChars (word : List Char) : List Char :=
  '\'' :: (word.flatMap quoteWordChar ++ ['\''])

def quoteWord (word : String) : String := String.ofList (quoteWordChars word.toList)

/-- What has been read of a command: the words that are complete, and the word that is
still open, if one is. -/
structure OpenCommand where
  words : List (List Char)
  word : Option (List Char)

namespace OpenCommand

def empty : OpenCommand := ⟨[], none⟩

def addChar (command : OpenCommand) (char : Char) : OpenCommand :=
  { command with word := some (command.word.getD [] ++ [char]) }

/-- An opening quote begins a word even when nothing stands between the quotes. -/
def openWord (command : OpenCommand) : OpenCommand :=
  { command with word := some (command.word.getD []) }

def closeWord (command : OpenCommand) : OpenCommand :=
  match command.word with
  | none => command
  | some word => ⟨command.words ++ [word], none⟩

end OpenCommand

/-- How the next character is read. -/
inductive ShellMode where
  | plain
  | quoted
  | escaped
  deriving DecidableEq

/-- Reads every command of a text. A quote that is never closed, and a backslash with nothing
after it, are refused; a last command may lack its newline. -/
def readCommands (mode : ShellMode) (command : OpenCommand) :
    List Char → Option (List (List (List Char)))
  | [] => match mode with
      | .plain => match command.closeWord.words with
          | [] => some []
          | words => some [words]
      | .quoted => none
      | .escaped => none
  | char :: rest => match mode with
      | .quoted =>
          if char = '\'' then readCommands .plain command rest
          else readCommands .quoted (command.addChar char) rest
      | .escaped => readCommands .plain (command.addChar char) rest
      | .plain =>
          if char = '\n' then
            (readCommands .plain .empty rest).map (command.closeWord.words :: ·)
          else if char = ' ' || char = '\t' then readCommands .plain command.closeWord rest
          else if char = '\'' then readCommands .quoted command.openWord rest
          else if char = '\\' then readCommands .escaped command rest
          else readCommands .plain (command.addChar char) rest

/-- The commands of a text, each as its list of words. -/
def commands (text : String) : Option (List (List String)) :=
  (readCommands .plain .empty text.toList).map fun found =>
    found.map fun words => words.map String.ofList

end AutomataRequest.Text

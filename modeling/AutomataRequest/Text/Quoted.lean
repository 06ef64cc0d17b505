import AutomataRequest.Text.Hidden

/-!
Quoted texts: a text between double quotes in which every hidden character is written by
an escape, so that the quoted form never holds a control character and stays on one line.
-/

namespace AutomataRequest.Text

/-- The code of a character in lower case hexadecimal digits without leading zeros. -/
def escapeCode (char : Char) : List Char :=
  "\\u\x7b".toList ++ Nat.toDigits 16 char.toNat ++ ['\x7d']

def quoteChar (char : Char) : List Char :=
  if char = '"' then ['\\', '"']
  else if char = '\\' then ['\\', '\\']
  else if char = '\n' then ['\\', 'n']
  else if char = '\r' then ['\\', 'r']
  else if char = '\t' then ['\\', 't']
  else if char = '\x00' then ['\\', '0']
  else if isHidden char then escapeCode char
  else [char]

def quoteChars (chars : List Char) : List Char :=
  '"' :: (chars.flatMap quoteChar ++ ['"'])

def quote (text : String) : String := String.ofList (quoteChars text.toList)

/-- Texts quoted one by one, between square brackets. -/
def quoteList (texts : List String) : String :=
  "[" ++ ", ".intercalate (texts.map quote) ++ "]"

end AutomataRequest.Text

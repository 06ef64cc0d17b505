/-!
JSON strings and the compact texts built from them. A string is written between double
quotes; the quote, the backslash and the characters below U+0020 are escaped and all else is
written as it is, so a written string never holds a control character of that range.
-/

namespace AutomataRequest.Json

/-- The four hexadecimal digits of a character below U+0100. -/
def hexPair (char : Char) : List Char :=
  let code := char.toNat
  ['0', '0', Nat.digitChar (code / 16), Nat.digitChar (code % 16)]

def encodeChar (char : Char) : List Char :=
  if char = '"' then ['\\', '"']
  else if char = '\\' then ['\\', '\\']
  else if char = '\x08' then ['\\', 'b']
  else if char = '\t' then ['\\', 't']
  else if char = '\n' then ['\\', 'n']
  else if char = '\x0c' then ['\\', 'f']
  else if char = '\r' then ['\\', 'r']
  else if char.toNat < 0x20 then '\\' :: 'u' :: hexPair char
  else [char]

def encodeChars (chars : List Char) : List Char :=
  '"' :: (chars.flatMap encodeChar ++ ['"'])

def encodeText (text : String) : String := String.ofList (encodeChars text.toList)

/-- An array of values that are already written. -/
def encodeArray (items : List String) : String :=
  "[" ++ ",".intercalate items ++ "]"

/-- An object whose values are already written. -/
def encodeObject (members : List (String × String)) : String :=
  "\x7b" ++
    ",".intercalate (members.map fun member => encodeText member.1 ++ ":" ++ member.2) ++ "\x7d"

/-- A member that comes first leaves the rest of the object as it is. -/
theorem encode_object_cons (name value : String) (first : String × String)
    (members : List (String × String)) :
    ∃ rest, encodeObject (first :: members) = "\x7b" ++ rest ∧
      encodeObject ((name, value) :: first :: members) =
        "\x7b" ++ encodeText name ++ ":" ++ value ++ "," ++ rest := by
  refine ⟨",".intercalate ((first :: members).map fun member =>
    encodeText member.1 ++ ":" ++ member.2) ++ "\x7d", ?_, ?_⟩
  · simp only [encodeObject, String.append_assoc]
  · simp only [encodeObject, String.append_assoc, List.map_cons, String.intercalate_cons_cons]

def encodeTexts (texts : List String) : String := encodeArray (texts.map encodeText)

end AutomataRequest.Json

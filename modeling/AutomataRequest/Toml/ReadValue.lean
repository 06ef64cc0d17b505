import AutomataRequest.Toml.ReadNumber
import AutomataRequest.Toml.ReadText

/-!
Reading TOML keys and values. Arrays may run over several lines and end in a comma; inline
tables may not. Arrays and inline tables are nested less than eighty deep.
-/

namespace AutomataRequest.Toml

def depthLimit : Nat := 80

def isBareKeyChar (char : Char) : Bool :=
  ('a' ≤ char && char ≤ 'z') || ('A' ≤ char && char ≤ 'Z') || Number.isDecimalDigit char ||
    char == '-' || char == '_'

/-- Reads one part of a key, bare or quoted, with the spaces around it. -/
def readKeyPart (cursor : Cursor) : Option (Key × Cursor) := do
  let start := skipSpaces cursor
  let (text, next) ← match start.rest with
    | '"' :: _ | '\'' :: _ => readShortString start
    | _ =>
        let chars := start.rest.takeWhile isBareKeyChar
        if chars.isEmpty then none
        else some (String.ofList chars, start.eatMany chars.length)
  some (⟨text, start.spanTo next⟩, skipSpaces next)

/-- Reads the parts of a key between points, at most `bound` of them. -/
def readKeyParts : Nat → Cursor → Option (List Key × Cursor)
  | 0, _ => none
  | bound + 1, cursor => do
      let (key, cursor) ← readKeyPart cursor
      match cursor.expect ['.'] with
      | none => some ([key], cursor)
      | some cursor =>
          let (keys, cursor) ← readKeyParts bound cursor
          some (key :: keys, cursor)

/-- Reads a key; its last part names the value and the others are the path to it. -/
def readKey (cursor : Cursor) : Option ((List Key × Key) × Cursor) := do
  let (keys, cursor) ← readKeyParts (depthLimit - 1) cursor
  let last ← keys.getLast?
  some ((keys.dropLast, last), cursor)

/-- Reads the elements of an array up to its closing bracket, at most `bound` of them. -/
def readElements (readElement : Cursor → Option (Node × Cursor)) :
    Nat → Cursor → Option (List Node × Cursor)
  | 0, _ => none
  | bound + 1, cursor => do
      let cursor := skipLines true cursor
      match cursor.rest with
      | ']' :: _ => some ([], cursor.eat)
      | _ =>
          let (node, cursor) ← readElement cursor
          let cursor := skipLines true cursor
          match cursor.rest with
          | ',' :: _ =>
              let (nodes, cursor) ← readElements readElement bound cursor.eat
              some (node :: nodes, cursor)
          | ']' :: _ => some ([node], cursor.eat)
          | _ => none

/-- Reads the entries of an inline table from its first key on, at most `bound` of them. -/
def readInlineEntries (readElement : Cursor → Option (Node × Cursor)) :
    Nat → Entries → Cursor → Option (Entries × Cursor)
  | 0, _, _ => none
  | bound + 1, entries, cursor => do
      let ((path, key), cursor) ← readKey cursor
      let (node, cursor) ← readElement (skipSpaces (← cursor.expect ['=']))
      let entries ← entries.addAt? true path key node .written
      let cursor := skipSpaces cursor
      match cursor.rest with
      | ',' :: _ => readInlineEntries readElement bound entries cursor.eat
      | '}' :: _ => some (entries, cursor.eat)
      | _ => none

def readInlineTable (readElement : Cursor → Option (Node × Cursor)) (cursor : Cursor) :
    Option (Entries × Cursor) :=
  let start := skipSpaces cursor
  match start.rest with
  | '}' :: _ => some ([], start.eat)
  | _ => readInlineEntries readElement (start.rest.length + 1) [] start

def readLiteral (literal : String) (value : Scalar) (cursor : Cursor) :
    Option (Node × Cursor) := do
  let next ← cursor.expect literal.toList
  some (.ofScalar value cursor next, next)

/-- Reads a value; `levels` more arrays and inline tables may be opened inside each other. -/
def readValue (levels : Nat) (cursor : Cursor) : Option (Node × Cursor) :=
  match cursor.rest with
  | '"' :: _ | '\'' :: _ => do
      let (text, next) ← readString cursor
      some (.ofScalar (.string text) cursor next, next)
  | '[' :: rest => match levels with
      | 0 => none
      | levels + 1 => do
          let (items, next) ← readElements (readValue levels) (rest.length + 1) cursor.eat
          some (.array items (cursor.spanTo next), next)
  | '{' :: _ => match levels with
      | 0 => none
      | levels + 1 => do
          let (entries, next) ← readInlineTable (readValue levels) cursor.eat
          some (.table true .written (some (cursor.spanTo next)) entries, next)
  | 't' :: _ => readLiteral "true" (.boolean true) cursor
  | 'f' :: _ => readLiteral "false" (.boolean false) cursor
  | 'i' :: _ | 'n' :: _ | '+' :: _ | '-' :: _ => readNumeric cursor
  | char :: _ => if Number.isDecimalDigit char then readNumeric cursor else none
  | [] => none

end AutomataRequest.Toml

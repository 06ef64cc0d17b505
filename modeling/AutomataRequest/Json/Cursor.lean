/-!
Places in a JSON text. A cursor is what is left of the text with the position it stands at;
lines count from one, and a column is the number of UTF-8 bytes before it on its line.
-/

namespace AutomataRequest.Json

structure Position where
  line : Nat
  column : Nat
  deriving DecidableEq, Repr

namespace Position

def start : Position := ⟨1, 0⟩

def newline (position : Position) : Position := ⟨position.line + 1, 0⟩

def addBytes (position : Position) (count : Nat) : Position :=
  { position with column := position.column + count }

def after (position : Position) (char : Char) : Position :=
  if char = '\n' then position.newline else position.addBytes char.utf8Size

/-- The position after the first byte of a character. -/
def afterByte (position : Position) (char : Char) : Position :=
  if char = '\n' then position.newline else position.addBytes 1

def afterAll (position : Position) (chars : List Char) : Position :=
  chars.foldl after position

/-- The position a number of bytes further on, or at the end of a shorter text. -/
def afterBytes (position : Position) (count : Nat) : List Char → Position
  | [] => position
  | char :: rest =>
      if count = 0 then position
      else if count < char.utf8Size then position.addBytes count
      else (position.after char).afterBytes (count - char.utf8Size) rest

end Position

structure Cursor where
  rest : List Char
  position : Position
  deriving DecidableEq, Repr

namespace Cursor

def ofText (text : String) : Cursor := ⟨text.toList, .start⟩

def eat (cursor : Cursor) : Cursor :=
  match cursor.rest with
  | [] => cursor
  | char :: rest => ⟨rest, cursor.position.after char⟩

/-- Where the next byte ends; the end of the text where there is none. -/
def nextByte (cursor : Cursor) : Position :=
  match cursor.rest with
  | [] => cursor.position
  | char :: _ => cursor.position.afterByte char

def eatMany (cursor : Cursor) (count : Nat) : Cursor :=
  ⟨cursor.rest.drop count, cursor.position.afterAll (cursor.rest.take count)⟩

def isSpace (char : Char) : Bool :=
  char == ' ' || char == '\n' || char == '\t' || char == '\r'

def skipSpacesFrom (position : Position) : List Char → Cursor
  | [] => ⟨[], position⟩
  | char :: rest =>
      if isSpace char then skipSpacesFrom (position.after char) rest else ⟨char :: rest, position⟩

def skipSpaces (cursor : Cursor) : Cursor := skipSpacesFrom cursor.position cursor.rest

theorem eat_length {cursor : Cursor} (some_left : cursor.rest ≠ []) :
    cursor.eat.rest.length + 1 = cursor.rest.length := by
  cases cursor with
  | mk rest position =>
      cases rest with
      | nil => exact absurd rfl some_left
      | cons char rest => rfl

theorem eat_length_le (cursor : Cursor) : cursor.eat.rest.length ≤ cursor.rest.length := by
  cases cursor with
  | mk rest position => cases rest <;> simp [eat]

theorem eat_many_length (cursor : Cursor) (count : Nat) :
    (cursor.eatMany count).rest.length = cursor.rest.length - count := by
  simp [eatMany]

end Cursor

end AutomataRequest.Json

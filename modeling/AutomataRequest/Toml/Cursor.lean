import AutomataRequest.Text.Bytes

/-!
Places in a TOML text. A cursor is what is left of the text with the number of UTF-8 bytes
before it; a span is a stretch of the text from its first byte to the byte after its last. A
reader that answers none has found the text malformed.
-/

namespace AutomataRequest.Toml

structure Span where
  first : Nat
  last : Nat
  deriving DecidableEq, Repr

structure Cursor where
  rest : List Char
  offset : Nat
  deriving DecidableEq, Repr

namespace Cursor

def eatMany (cursor : Cursor) (count : Nat) : Cursor :=
  ⟨cursor.rest.drop count, cursor.offset + Text.byteCount (cursor.rest.take count)⟩

def eat (cursor : Cursor) : Cursor := cursor.eatMany 1

/-- The cursor before a rest that is known to be left of this one. -/
def leaving (cursor : Cursor) (rest : List Char) : Cursor :=
  cursor.eatMany (cursor.rest.length - rest.length)

def spanTo (cursor next : Cursor) : Span := ⟨cursor.offset, next.offset⟩

def expect (chars : List Char) (cursor : Cursor) : Option Cursor :=
  if chars.isPrefixOf cursor.rest then some (cursor.eatMany chars.length) else none

def skipWhile (test : Char → Bool) (cursor : Cursor) : Cursor :=
  cursor.eatMany (cursor.rest.takeWhile test).length

end Cursor

def isSpace (char : Char) : Bool := char == ' ' || char == '\t'

def skipSpaces : Cursor → Cursor := Cursor.skipWhile isSpace

/-- Controls other than the tab are not allowed in comments and strings. -/
def isPlain (char : Char) : Bool :=
  char == '\t' || (0x20 ≤ char.toNat && char.toNat ≠ 0x7F)

/-- A newline is a line feed, with or without a carriage return before it. -/
def readNewline (cursor : Cursor) : Option Cursor :=
  match cursor.rest with
  | '\n' :: _ => some cursor.eat
  | '\r' :: '\n' :: _ => some (cursor.eatMany 2)
  | _ => none

/-- A newline, or the end of the text. -/
def readLineEnd (cursor : Cursor) : Option Cursor :=
  if cursor.rest.isEmpty then some cursor else readNewline cursor

/-- Passes over a comment, if one comes next, up to the end of its line. -/
def skipComment (cursor : Cursor) : Cursor :=
  match cursor.rest with
  | '#' :: _ => cursor.skipWhile isPlain
  | _ => cursor

/-- What may follow a value or a header on its line. -/
def readLineRest (cursor : Cursor) : Option Cursor :=
  readLineEnd (skipComment (skipSpaces cursor))

/-- Passes over spaces and newlines, and over comments if they count as blank, at most
`bound` of them. -/
def skipBlankLines (comments : Bool) : Nat → Cursor → Cursor
  | 0, cursor => cursor
  | bound + 1, cursor =>
      match cursor.rest with
      | [] => cursor
      | char :: _ =>
          if isSpace char then skipBlankLines comments bound cursor.eat
          else if char = '#' && comments then skipBlankLines comments bound (skipComment cursor)
          else match readNewline cursor with
            | some next => skipBlankLines comments bound next
            | none => cursor

def skipLines (comments : Bool) (cursor : Cursor) : Cursor :=
  skipBlankLines comments cursor.rest.length cursor

end AutomataRequest.Toml

import AutomataRequest.Number.Decimal
import AutomataRequest.Toml.Cursor

/-!
Reading TOML strings. Basic strings have escapes and literal strings have none; either may run
over several lines between triple quotes. Up to two quotes may stand before a closing triple.
-/

namespace AutomataRequest.Toml

/-- A piece of a string: characters with more to come, or the last characters. -/
inductive Piece where
  | more (chars : List Char)
  | last (chars : List Char)

/-- Reads pieces up to the last one, at most `bound` of them. -/
def readPieces (readPiece : Cursor → Option (Piece × Cursor)) :
    Nat → Cursor → Option (List Char × Cursor)
  | 0, _ => none
  | bound + 1, cursor => do
      match ← readPiece cursor with
      | (.last chars, cursor) => some (chars, cursor)
      | (.more chars, cursor) =>
          let (rest, cursor) ← readPieces readPiece bound cursor
          some (chars ++ rest, cursor)

/-- Reads the code of a character in a fixed number of hexadecimal digits. Surrogates and
codes beyond the last character are refused. -/
def readCode (count : Nat) (cursor : Cursor) : Option (Piece × Cursor) := do
  let digits := cursor.rest.take count
  if digits.length ≠ count then none
  else
    let code := Number.digitsValue 16 (← digits.mapM Number.hexValue?)
    if code.isValidChar then some (.more [Char.ofNat code], cursor.eatMany count) else none

/-- Reads what follows a backslash. -/
def readEscape (cursor : Cursor) : Option (Piece × Cursor) :=
  match cursor.rest with
  | 'b' :: _ => some (.more ['\x08'], cursor.eat)
  | 't' :: _ => some (.more ['\t'], cursor.eat)
  | 'n' :: _ => some (.more ['\n'], cursor.eat)
  | 'f' :: _ => some (.more ['\x0c'], cursor.eat)
  | 'r' :: _ => some (.more ['\r'], cursor.eat)
  | '"' :: _ => some (.more ['"'], cursor.eat)
  | '\\' :: _ => some (.more ['\\'], cursor.eat)
  | 'u' :: _ => readCode 4 cursor.eat
  | 'U' :: _ => readCode 8 cursor.eat
  | _ => none

def readBasicPiece (cursor : Cursor) : Option (Piece × Cursor) :=
  match cursor.rest with
  | '"' :: _ => some (.last [], cursor.eat)
  | '\\' :: _ => readEscape cursor.eat
  | char :: _ => if isPlain char then some (.more [char], cursor.eat) else none
  | [] => none

def readLiteralPiece (cursor : Cursor) : Option (Piece × Cursor) :=
  match cursor.rest with
  | '\'' :: _ => some (.last [], cursor.eat)
  | char :: _ => if isPlain char then some (.more [char], cursor.eat) else none
  | [] => none

/-- Reads a run of quotes. Three or more close the string, after at most two that belong to
it; fewer belong to it and do not close it. -/
def readQuotes (quote : Char) (cursor : Cursor) : Piece × Cursor :=
  let run := (cursor.rest.takeWhile (· == quote)).length
  if run < 3 then (.more (List.replicate run quote), cursor.eatMany run)
  else
    let inside := min (run - 3) 2
    (.last (List.replicate inside quote), cursor.eatMany (inside + 3))

/-- A backslash at the end of a line joins it to the next characters that are neither spaces
nor newlines. -/
def readJoin (cursor : Cursor) : Option Cursor :=
  let next := skipSpaces cursor
  match readNewline next with
  | some next => some (skipLines false next)
  | none => none

def readLongPiece (quote : Char) (escapes : Bool) (cursor : Cursor) : Option (Piece × Cursor) :=
  match cursor.rest with
  | [] => none
  | char :: _ =>
      if char = quote then some (readQuotes quote cursor)
      else if char = '\\' && escapes then
        match readJoin cursor.eat with
        | some next => some (.more [], next)
        | none => readEscape cursor.eat
      else if isPlain char then some (.more [char], cursor.eat)
      else (readNewline cursor).map fun next => (.more ['\n'], next)

def readStringWith (opening : List Char) (readPiece : Cursor → Option (Piece × Cursor))
    (cursor : Cursor) : Option (String × Cursor) := do
  let cursor ← cursor.expect opening
  let (chars, cursor) ← readPieces readPiece (cursor.rest.length + 1) cursor
  some (String.ofList chars, cursor)

/-- A newline right after the opening quotes of a long string is not part of it. -/
def readLongString (quote : Char) (escapes : Bool) (cursor : Cursor) :
    Option (String × Cursor) := do
  let cursor ← cursor.expect (List.replicate 3 quote)
  let cursor := (readNewline cursor).getD cursor
  let (chars, cursor) ← readPieces (readLongPiece quote escapes) (cursor.rest.length + 1) cursor
  some (String.ofList chars, cursor)

/-- Reads a string on one line, as a key may be. -/
def readShortString (cursor : Cursor) : Option (String × Cursor) :=
  match cursor.rest with
  | '"' :: _ => readStringWith ['"'] readBasicPiece cursor
  | '\'' :: _ => readStringWith ['\''] readLiteralPiece cursor
  | _ => none

def readString (cursor : Cursor) : Option (String × Cursor) :=
  match cursor.rest with
  | '"' :: '"' :: '"' :: _ => readLongString '"' true cursor
  | '\'' :: '\'' :: '\'' :: _ => readLongString '\'' false cursor
  | _ => readShortString cursor

end AutomataRequest.Toml

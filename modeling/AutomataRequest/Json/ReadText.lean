import AutomataRequest.Json.Failure
import AutomataRequest.Text.Bytes

/-!
Reading JSON strings. A string ends at the first quote that is not escaped. Escapes of code
points beyond U+FFFF come in pairs, a leading and then a trailing surrogate.
-/

namespace AutomataRequest.Json

def fourDigits? : List Char → Option Nat
  | [a, b, c, d] => do
      let values ← [a, b, c, d].mapM Number.hexValue?
      some (Number.digitsValue 16 values)
  | _ => none

/-- Reads four hexadecimal digits. Fewer than four bytes end the string too early, and four
bytes that are no digits are passed over before they are refused. -/
def readFourDigits (cursor : Cursor) : Read Nat :=
  let next := cursor.rest.take 4
  if Text.byteCount next < 4 then
    .error (.placed .endInString (cursor.position.afterAll next))
  else
    match fourDigits? next with
    | some value => .ok (value, cursor.eatMany 4)
    | none => .error (.placed .invalidEscape (cursor.position.afterBytes 4 cursor.rest))

def isLeading (unit : Nat) : Bool := 0xD800 ≤ unit && unit ≤ 0xDBFF

def isTrailing (unit : Nat) : Bool := 0xDC00 ≤ unit && unit ≤ 0xDFFF

def joinSurrogates (leading trailing : Nat) : Char :=
  Char.ofNat (0x10000 + (leading - 0xD800) * 0x400 + (trailing - 0xDC00))

/-- Passes over one character that the escape of a trailing surrogate needs. -/
def readMark (mark : Char) (cursor : Cursor) : Except Failure Cursor :=
  match cursor.rest with
  | [] => .error (.here .endInString cursor)
  | char :: _ =>
      if char = mark then .ok cursor.eat else .error (.next .unfinishedSurrogate cursor)

/-- Reads what follows the letter u of an escape. -/
def readUnicodeEscape (cursor : Cursor) : Except Failure (Char × Cursor) := do
  let (unit, cursor) ← readFourDigits cursor
  if isTrailing unit then
    .error (.here .loneSurrogate cursor)
  else if isLeading unit then
    let cursor ← readMark '\\' cursor
    let cursor ← readMark 'u' cursor
    let (second, cursor) ← readFourDigits cursor
    if isTrailing second then .ok (joinSurrogates unit second, cursor)
    else .error (.here .loneSurrogate cursor)
  else .ok (Char.ofNat unit, cursor)

def simpleEscape? (letter : Char) : Option Char :=
  if letter = '"' then some '"'
  else if letter = '\\' then some '\\'
  else if letter = '/' then some '/'
  else if letter = 'b' then some '\x08'
  else if letter = 'f' then some '\x0c'
  else if letter = 'n' then some '\n'
  else if letter = 'r' then some '\r'
  else if letter = 't' then some '\t'
  else none

def readEscape (cursor : Cursor) : Read Char :=
  match cursor.rest with
  | [] => .error (.here .endInString cursor)
  | letter :: _ =>
      if letter = 'u' then readUnicodeEscape cursor.eat
      else match simpleEscape? letter with
        | some char => .ok (char, cursor.eat)
        | none => .error (.next .invalidEscape cursor)

/-- Reads one character of a string, or its closing quote as no character. -/
def readStringChar (cursor : Cursor) : Read (Option Char) :=
  match cursor.rest with
  | [] => .error (.here .endInString cursor)
  | char :: _ =>
      if char = '"' then .ok (none, cursor.eat)
      else if char = '\\' then
        match readEscape cursor.eat with
        | .ok (escaped, cursor) => .ok (some escaped, cursor)
        | .error failure => .error failure
      else if char.toNat < 0x20 then .error (.next .controlCharacter cursor)
      else .ok (some char, cursor.eat)

theorem read_four_digits_length {cursor next : Cursor} {value : Nat}
    (read : readFourDigits cursor = .ok (value, next)) :
    next.rest.length ≤ cursor.rest.length := by
  simp only [readFourDigits] at read
  split at read
  · cases read
  · split at read
    · cases read
      rw [Cursor.eat_many_length]
      exact Nat.sub_le _ _
    · cases read

theorem read_mark_length {mark : Char} {cursor next : Cursor}
    (read : readMark mark cursor = .ok next) : next.rest.length ≤ cursor.rest.length := by
  simp only [readMark] at read
  split at read
  · cases read
  · split at read
    · cases read
      exact Cursor.eat_length_le cursor
    · cases read

theorem read_unicode_escape_length {cursor next : Cursor} {value : Char}
    (read : readUnicodeEscape cursor = .ok (value, next)) :
    next.rest.length ≤ cursor.rest.length := by
  simp only [readUnicodeEscape, bind, Except.bind] at read
  split at read
  · cases read
  · rename_i first readFirst
    have firstLength := read_four_digits_length readFirst
    split at read
    · cases read
    · split at read
      · split at read
        · cases read
        · rename_i _ readBackslash
          have backslashLength := read_mark_length readBackslash
          split at read
          · cases read
          · rename_i _ readLetter
            have letterLength := read_mark_length readLetter
            split at read
            · cases read
            · rename_i second readSecond
              have secondLength := read_four_digits_length readSecond
              split at read
              · simp only [Except.ok.injEq, Prod.mk.injEq] at read
                obtain ⟨_, rfl⟩ := read
                omega
              · cases read
      · simp only [Except.ok.injEq, Prod.mk.injEq] at read
        obtain ⟨_, rfl⟩ := read
        exact firstLength

theorem read_escape_length {cursor next : Cursor} {value : Char}
    (read : readEscape cursor = .ok (value, next)) :
    next.rest.length ≤ cursor.rest.length := by
  have eaten := Cursor.eat_length_le cursor
  simp only [readEscape] at read
  split at read
  · cases read
  · split at read
    · have := read_unicode_escape_length read
      omega
    · split at read
      · cases read
        exact eaten
      · cases read

/-- Every character that is read takes at least one character off the text. -/
theorem read_string_char_length {cursor next : Cursor} {value : Option Char}
    (read : readStringChar cursor = .ok (value, next)) :
    next.rest.length < cursor.rest.length := by
  simp only [readStringChar] at read
  split at read
  · cases read
  · rename_i _ char rest left
    have eaten : cursor.eat.rest.length + 1 = cursor.rest.length :=
      Cursor.eat_length (by rw [left]; simp)
    split at read
    · cases read
      omega
    · split at read
      · split at read
        · rename_i escaped after readEscaped
          cases read
          have := read_escape_length readEscaped
          omega
        · cases read
      · split at read
        · cases read
        · cases read
          omega

/-- Reads the characters of a string up to its closing quote. -/
def readStringChars (cursor : Cursor) : Read (List Char) :=
  match _read : readStringChar cursor with
  | .error failure => .error failure
  | .ok (none, next) => .ok ([], next)
  | .ok (some char, next) =>
      match readStringChars next with
      | .error failure => .error failure
      | .ok (chars, last) => .ok (char :: chars, last)
  termination_by cursor.rest.length
  decreasing_by exact read_string_char_length _read

/-- Reads a string whose opening quote has been read. -/
def readString (cursor : Cursor) : Read String :=
  match readStringChars cursor with
  | .error failure => .error failure
  | .ok (chars, next) => .ok (String.ofList chars, next)

end AutomataRequest.Json

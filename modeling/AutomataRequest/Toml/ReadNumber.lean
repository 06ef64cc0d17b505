import AutomataRequest.Number.Decimal
import AutomataRequest.Toml.Cursor
import AutomataRequest.Toml.Node

/-!
Reading TOML dates, times and numbers. Digits may be separated by single underscores. An
integer fits 64 bits with its sign, and a positive number that would be infinite is refused.
-/

namespace AutomataRequest.Toml

open Number (Magnitude Binary64 isDecimalDigit hexValue? digitsValue twoTo)

def decimalValue (digits : List Char) : Nat := digitsValue 10 (digits.filterMap hexValue?)

/-- Reads a fixed number of digits whose value lies between two bounds. -/
def readField (count least greatest : Nat) (cursor : Cursor) : Option (Nat × Cursor) :=
  let digits := cursor.rest.take count
  let value := decimalValue digits
  if digits.length = count && digits.all isDecimalDigit && least ≤ value && value ≤ greatest then
    some (value, cursor.eatMany count)
  else none

def isLeapYear (year : Nat) : Bool := year % 4 == 0 && (year % 100 != 0 || year % 400 == 0)

def daysIn (year month : Nat) : Nat :=
  if month = 2 then (if isLeapYear year then 29 else 28)
  else if month = 4 || month = 6 || month = 9 || month = 11 then 30
  else 31

/-- What a text that may hold something turns out to be: another thing, that thing, or a
malformed one. -/
inductive Attempt (Value : Type) where
  | other
  | found (value : Value) (cursor : Cursor)
  | malformed

namespace Attempt

def ofOption {Value : Type} : Option (Value × Cursor) → Attempt Value
  | some (value, cursor) => .found value cursor
  | none => .malformed

end Attempt

/-- Passes over the digits of a fraction of a second, if a point and a digit come next. -/
def skipSecondFraction (cursor : Cursor) : Cursor :=
  match cursor.rest with
  | '.' :: digit :: _ =>
      if isDecimalDigit digit then cursor.eat.skipWhile isDecimalDigit else cursor
  | _ => cursor

/-- Reads a time; an hour and a colon commit to it. -/
def readTime (cursor : Cursor) : Attempt Unit :=
  match readField 2 0 23 cursor with
  | none => .other
  | some (_, afterHour) =>
      match afterHour.expect [':'] with
      | none => .other
      | some afterColon => .ofOption do
          let (_, afterMinute) ← readField 2 0 59 afterColon
          let (_, afterSecond) ← readField 2 0 60 (← afterMinute.expect [':'])
          some ((), skipSecondFraction afterSecond)

/-- Reads the distance from universal time; a sign commits to it. -/
def readOffset (cursor : Cursor) : Option Cursor :=
  match cursor.rest with
  | 'Z' :: _ | 'z' :: _ => some cursor.eat
  | '+' :: _ | '-' :: _ => do
      let (_, afterHour) ← readField 2 0 23 cursor.eat
      let (_, afterMinute) ← readField 2 0 59 (← afterHour.expect [':'])
      some afterMinute
  | _ => some cursor

/-- Reads what follows a date: nothing, or a time and perhaps an offset. -/
def readAfterDate (cursor : Cursor) : Option Cursor :=
  match cursor.rest with
  | 'T' :: _ | 't' :: _ | ' ' :: _ =>
      match readTime cursor.eat with
      | .other => some cursor
      | .found _ afterTime => readOffset afterTime
      | .malformed => none
  | _ => some cursor

/-- Reads a date or a time. Four digits and a hyphen commit to a date. -/
def readDatetime (cursor : Cursor) : Attempt Unit :=
  match readField 4 0 9999 cursor with
  | none => readTime cursor
  | some (year, afterYear) =>
      match afterYear.expect ['-'] with
      | none => readTime cursor
      | some afterHyphen => .ofOption do
          let (month, afterMonth) ← readField 2 1 12 afterHyphen
          let (day, afterDay) ← readField 2 1 31 (← afterMonth.expect ['-'])
          if daysIn year month < day then none
          else some ((), ← readAfterDate afterDay)

/-- Reads digits up to the first character that is none. An underscore stands between two
digits. -/
def readDigitRun (valid : Char → Bool) : List Char → Option (List Char × List Char)
  | [] => some ([], [])
  | '_' :: digit :: rest =>
      if valid digit then
        (readDigitRun valid rest).map fun (digits, left) => (digit :: digits, left)
      else none
  | char :: rest =>
      if valid char then
        (readDigitRun valid rest).map fun (digits, left) => (char :: digits, left)
      else if char = '_' then none
      else some ([], char :: rest)

def readDigits (valid : Char → Bool) (chars : List Char) : Option (List Char × List Char) :=
  match chars with
  | char :: _ => if valid char then readDigitRun valid chars else none
  | [] => none

def splitSign : List Char → Bool × List Char
  | '-' :: rest => (true, rest)
  | '+' :: rest => (false, rest)
  | rest => (false, rest)

def readExponent (chars : List Char) : Option (Option Int × List Char) :=
  match chars with
  | mark :: rest =>
      if mark = 'e' || mark = 'E' then do
        let (down, rest) := splitSign rest
        let (digits, left) ← readDigits isDecimalDigit rest
        let size := Int.ofNat (decimalValue digits)
        some (some (if down then -size else size), left)
      else some (none, chars)
  | [] => some (none, [])

/-- The nearest number; minus infinity has a text with a finite spelling, infinity has none. -/
def floatOf (negative : Bool) (digits : List Char) (exponent : Int) : Option Binary64 :=
  match Magnitude.ofDecimal (decimalValue digits) exponent with
  | some size => some (.finite negative size)
  | none => if negative then some (.infinite true) else none

def integerOf (negative : Bool) (value : Nat) : Option Scalar :=
  if negative then (if value ≤ twoTo 63 then some (.integer (-Int.ofNat value)) else none)
  else if value < twoTo 63 then some (.integer value)
  else none

/-- Reads an integer with a base mark, whose digits come next. -/
def readInBase (base : Nat) (chars : List Char) : Option (Scalar × List Char) := do
  let valid (char : Char) : Bool := (hexValue? char).any fun value => value < base
  let (digits, left) ← readDigits valid chars
  let scalar ← integerOf false (digitsValue base (digits.filterMap hexValue?))
  some (scalar, left)

/-- The integer digits of a decimal number; a zero stands alone. -/
def readWhole (chars : List Char) : Option (List Char × List Char) :=
  match chars with
  | '0' :: rest => some (['0'], rest)
  | _ => readDigits isDecimalDigit chars

/-- Reads a number in decimal digits. A point or an exponent makes it a floating point number. -/
def readDecimal (chars : List Char) : Option (Scalar × List Char) := do
  let (negative, unsigned) := splitSign chars
  let (whole, left) ← readWhole unsigned
  match left with
  | '.' :: part => do
      let (part, left) ← readDigits isDecimalDigit part
      let (exponent, left) ← readExponent left
      let value ← floatOf negative (whole ++ part) (exponent.getD 0 - Int.ofNat part.length)
      some (.floating value, left)
  | _ => do
      match ← readExponent left with
      | (some exponent, left) => do
          let value ← floatOf negative whole exponent
          some (.floating value, left)
      | (none, left) => do
          let value ← integerOf negative (decimalValue whole)
          some (value, left)

def readNumber (chars : List Char) : Option (Scalar × List Char) :=
  match chars with
  | '0' :: 'x' :: rest => readInBase 16 rest
  | '0' :: 'o' :: rest => readInBase 8 rest
  | '0' :: 'b' :: rest => readInBase 2 rest
  | _ =>
      let (negative, unsigned) := splitSign chars
      match unsigned with
      | 'i' :: 'n' :: 'f' :: rest => some (.floating (.infinite negative), rest)
      | 'n' :: 'a' :: 'n' :: rest => some (.floating .nan, rest)
      | _ => readDecimal chars

def readNumeric (cursor : Cursor) : Option (Node × Cursor) :=
  match readDatetime cursor with
  | .found _ next => some (.ofScalar .datetime cursor next, next)
  | .malformed => none
  | .other => do
      let (scalar, rest) ← readNumber cursor.rest
      let next := cursor.leaving rest
      some (.ofScalar scalar cursor next, next)

end AutomataRequest.Toml

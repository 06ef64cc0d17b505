import AutomataRequest.Json.Failure

/-!
Reading JSON numbers. Significant digits are gathered while they fit 64 bits; the digits
beyond them only move the exponent. A floating point number is the gathered integer times or
over a power of ten, each step rounded, and one that would be infinite is refused.
-/

namespace AutomataRequest.Json

open Number (Magnitude Binary64 isDecimalDigit twoTo)

def digitValue (char : Char) : Nat := char.toNat - '0'.toNat

def leadingDigits (cursor : Cursor) : List Char := cursor.rest.takeWhile isDecimalDigit

def greatestWord : Nat := twoTo 64 - 1

/-- Adds digits to a significand while the bound is kept, and counts the digits added. -/
def gather (bound significand count : Nat) : List Char → Nat × Nat
  | [] => (significand, count)
  | digit :: rest =>
      let next := significand * 10 + digitValue digit
      if bound < next then (significand, count) else gather bound next (count + 1) rest

/-- Divides by the largest power of ten that a magnitude can hold, at most `steps` times. -/
def shrink (divisor : Magnitude) : Nat → Magnitude → Magnitude
  | 0, size => size
  | steps + 1, size =>
      if size.isZero then size
      else match size.div? divisor with
        | some smaller => shrink divisor steps smaller
        | none => size

/-- The significand, rounded, times or over a power of ten; none where that is infinite. -/
def scaled? (significand : Nat) (exponent : Int) : Option Magnitude := do
  let size ← Magnitude.ofNat significand
  if 0 ≤ exponent then
    if exponent ≤ 308 then size.mul? (← Magnitude.ofDecimal 1 exponent)
    else if size.isZero then some size else none
  else
    let steps := (exponent.natAbs - 1) / 308
    let smaller := shrink (← Magnitude.ofDecimal 1 308) (min steps 3) size
    if smaller.isZero then some smaller
    else smaller.div? (← Magnitude.ofDecimal 1 (exponent.natAbs - 308 * steps))

def floatOf (negative : Bool) (significand : Nat) (exponent : Int) (cursor : Cursor) :
    Read Binary64 :=
  match scaled? significand exponent with
  | some size => .ok (.finite negative size, cursor)
  | none => .error (.here .numberOutOfRange cursor)

def greatestExponent : Nat := twoTo 31 - 1

/-- Reads an exponent, whose letter comes next. One too large for 31 bits gives zero or an
infinite number. -/
def readExponent (negative : Bool) (significand : Nat) (start : Int) (cursor : Cursor) :
    Read Binary64 :=
  let cursor := cursor.eat
  let (down, cursor) := match cursor.rest with
    | '+' :: _ => (false, cursor.eat)
    | '-' :: _ => (true, cursor.eat)
    | _ => (false, cursor)
  match cursor.rest with
  | [] => .error (.here .endInValue cursor)
  | char :: _ =>
      if isDecimalDigit char then
        let digits := leadingDigits cursor
        let (exponent, count) := gather greatestExponent 0 0 digits
        if count < digits.length then
          if significand ≠ 0 && !down then
            .error (.here .numberOutOfRange (cursor.eatMany (count + 1)))
          else .ok (.finite negative .zero, cursor.eatMany digits.length)
        else
          floatOf negative significand (if down then start - exponent else start + exponent)
            (cursor.eatMany digits.length)
      else .error (.next .invalidNumber cursor)

def isExponentMark (cursor : Cursor) : Bool :=
  match cursor.rest with
  | char :: _ => char == 'e' || char == 'E'
  | [] => false

/-- Reads a fraction, whose point comes next. -/
def readFraction (negative : Bool) (significand : Nat) (start : Int) (cursor : Cursor) :
    Read Binary64 :=
  let cursor := cursor.eat
  let digits := leadingDigits cursor
  if digits.isEmpty then
    .error (.next (if cursor.rest.isEmpty then .endInValue else .invalidNumber) cursor)
  else
    let (significand, count) := gather greatestWord significand 0 digits
    let exponent := start - Int.ofNat count
    let cursor := cursor.eatMany digits.length
    if isExponentMark cursor then readExponent negative significand exponent cursor
    else floatOf negative significand exponent cursor

/-- An integer that fits 64 bits, signed if it has a sign. Minus zero is no integer. -/
def integer? (negative : Bool) (significand : Nat) : Option Int :=
  if !negative then some significand
  else if significand = 0 || twoTo 63 < significand then none
  else some (-Int.ofNat significand)

/-- Reads what follows the integer digits; `start` counts the digits left out of the
significand. -/
def readNumberEnd (negative : Bool) (significand start : Nat) (cursor : Cursor) : Read Found :=
  let floating : Read Binary64 → Read Found
    | .ok (value, cursor) => .ok (.floating value, cursor)
    | .error failure => .error failure
  if isExponentMark cursor then floating (readExponent negative significand start cursor)
  else if cursor.rest.head? == some '.' then
    floating (readFraction negative significand start cursor)
  else if start ≠ 0 then floating (floatOf negative significand start cursor)
  else match integer? negative significand with
    | some value => .ok (.integer value, cursor)
    | none => .ok (.floating (.finite negative
        ((Magnitude.ofNat significand).getD .zero)), cursor)

/-- Reads a number whose sign, if it has one, has been read. -/
def readNumber (negative : Bool) (cursor : Cursor) : Read Found :=
  match cursor.rest with
  | [] => .error (.here .endInValue cursor)
  | char :: _ =>
      if char = '0' then
        if (leadingDigits cursor.eat).isEmpty then readNumberEnd negative 0 0 cursor.eat
        else .error (.next .invalidNumber cursor.eat)
      else if isDecimalDigit char then
        let digits := leadingDigits cursor
        let (significand, count) := gather greatestWord 0 0 digits
        readNumberEnd negative significand (digits.length - count)
          (cursor.eatMany digits.length)
      else .error (.next .invalidNumber cursor)

end AutomataRequest.Json

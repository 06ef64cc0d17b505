import AutomataRequest.Number.Shortest

/-!
Decimal text of numbers: digits and their values, signs, and the text of a floating point
number, which always shows a point or an exponent.
-/

namespace AutomataRequest.Number

def natText (value : Nat) : String := String.ofList (Nat.toDigits 10 value)

def intText (value : Int) : String :=
  if value < 0 then "-" ++ natText value.natAbs else natText value.natAbs

/-- The value of a digit in a base up to sixteen, in either case. -/
def hexValue? (char : Char) : Option Nat :=
  if '0' ≤ char && char ≤ '9' then some (char.toNat - '0'.toNat)
  else if 'a' ≤ char && char ≤ 'f' then some (char.toNat - 'a'.toNat + 10)
  else if 'A' ≤ char && char ≤ 'F' then some (char.toNat - 'A'.toNat + 10)
  else none

def isDecimalDigit (char : Char) : Bool := '0' ≤ char && char ≤ '9'

/-- The value of digits, the highest first. -/
def digitsValue (base : Nat) (digits : List Nat) : Nat :=
  digits.foldl (fun value digit => base * value + digit) 0

/-- The exponents of the first digit for which a number is written without an exponent, an
absent bound being no bound, and the digits of a number halfway between two. -/
structure FloatStyle where
  leastPositional : Option Int
  greatestPositional : Option Int
  tie : TieRule

namespace FloatStyle

def isPositional (style : FloatStyle) (exponent : Int) : Bool :=
  (match style.leastPositional with
    | some least => least ≤ exponent
    | none => true) &&
  (match style.greatestPositional with
    | some greatest => exponent ≤ greatest
    | none => true)

/-- Digits with a point that stands `before` digits after their start. -/
def positional (digits : List Char) (before : Int) : List Char :=
  if before ≤ 0 then '0' :: '.' :: (List.replicate (-before).toNat '0' ++ digits)
  else
    let whole := digits.take before.toNat
    let part := digits.drop before.toNat
    let padding := List.replicate (before.toNat - digits.length) '0'
    whole ++ padding ++ ['.'] ++ (if part.isEmpty then ['0'] else part)

def scientific (digits : List Char) (exponent : Int) : List Char :=
  let part := digits.drop 1
  digits.take 1 ++ (if part.isEmpty then [] else '.' :: part) ++
    ['e', if exponent < 0 then '-' else '+'] ++ Nat.toDigits 10 exponent.natAbs

def magnitudeChars (style : FloatStyle) (size : Magnitude) : List Char :=
  let decimal := size.shortest style.tie
  let digits := Nat.toDigits 10 decimal.digits
  let before := Int.ofNat digits.length + decimal.exponent
  if style.isPositional (before - 1) then positional digits before
  else scientific digits (before - 1)

def text (style : FloatStyle) : Binary64 → String
  | .finite negative size =>
      String.ofList ((if negative then ['-'] else []) ++ style.magnitudeChars size)
  | .infinite negative => if negative then "-inf" else "inf"
  | .nan => "NaN"

end FloatStyle

end AutomataRequest.Number

/-!
Binary floating point numbers of 64 bits, in exact arithmetic. A magnitude is a natural number
times a power of two; a ratio that is no magnitude is rounded to the nearest one, and a tie
goes to the even neighbour.
-/

namespace AutomataRequest.Number

def twoTo (exponent : Nat) : Nat := Nat.pow 2 exponent

def tenTo (exponent : Nat) : Nat := Nat.pow 10 exponent

/-- The value `mantissa * 2 ^ exponent`. Rounding keeps the mantissa below `2 ^ 53` and the
exponent between `-1074` and `971`. -/
structure Magnitude where
  mantissa : Nat
  exponent : Int
  deriving DecidableEq, Repr

/-- The nearest natural number to a ratio, the even one of two that are equally near. -/
def roundRatio (numerator denominator : Nat) : Nat :=
  let quotient := numerator / denominator
  let twice := 2 * (numerator % denominator)
  if twice < denominator then quotient
  else if denominator < twice then quotient + 1
  else quotient + quotient % 2

namespace Magnitude

def leastExponent : Int := -1074

def greatestExponent : Int := 971

def zero : Magnitude := ⟨0, leastExponent⟩

def isZero (size : Magnitude) : Bool := size.mantissa == 0

def numerator (size : Magnitude) : Nat := size.mantissa * twoTo size.exponent.toNat

def denominator (size : Magnitude) : Nat := twoTo (-size.exponent).toNat

/-- The mantissa of a ratio at a given exponent, rounded. -/
def mantissaAt (numerator denominator : Nat) (exponent : Int) : Nat :=
  roundRatio (numerator * twoTo (-exponent).toNat) (denominator * twoTo exponent.toNat)

/-- The exponent that gives a ratio 53 binary digits, or the least exponent. The difference of
the two lengths is right or one too large, and one trial tells which. -/
def exponentFor (numerator denominator : Nat) : Int :=
  let length : Int := Int.ofNat numerator.log2 - Int.ofNat denominator.log2
  let wide := max leastExponent (length - 52)
  let narrow := max leastExponent (length - 53)
  if numerator * twoTo (-wide).toNat < twoTo 52 * (denominator * twoTo wide.toNat) then narrow
  else wide

/-- The nearest magnitude to a ratio; none where it would be infinite. -/
def ofRatio (numerator denominator : Nat) : Option Magnitude :=
  if numerator = 0 then some zero else
    let exponent := exponentFor numerator denominator
    let mantissa := mantissaAt numerator denominator exponent
    let rounded : Magnitude :=
      if mantissa = twoTo 53 then ⟨twoTo 52, exponent + 1⟩ else ⟨mantissa, exponent⟩
    if greatestExponent < rounded.exponent then none else some rounded

def ofNat (value : Nat) : Option Magnitude := ofRatio value 1

/-- The nearest magnitude to `digits * 10 ^ exponent`. Far outside the range the answer is
known from the number of digits, and no large power is computed. -/
def ofDecimal (digits : Nat) (exponent : Int) : Option Magnitude :=
  if digits = 0 then some zero else
    let scale := Int.ofNat (Nat.toDigits 10 digits).length + exponent
    if scale < -330 then some zero
    else if 310 < scale then none
    else ofRatio (digits * tenTo exponent.toNat) (tenTo (-exponent).toNat)

def mul? (left right : Magnitude) : Option Magnitude :=
  ofRatio (left.numerator * right.numerator) (left.denominator * right.denominator)

/-- A divisor of zero gives none, as an infinite product does. -/
def div? (left right : Magnitude) : Option Magnitude :=
  if right.isZero then none else
    ofRatio (left.numerator * right.denominator) (left.denominator * right.numerator)

end Magnitude

inductive Binary64 where
  | finite (negative : Bool) (size : Magnitude)
  | infinite (negative : Bool)
  | nan
  deriving DecidableEq, Repr

end AutomataRequest.Number

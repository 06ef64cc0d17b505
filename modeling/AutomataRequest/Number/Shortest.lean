import AutomataRequest.Number.Binary64

/-!
Shortest decimals. Every decimal strictly between the midpoints to the neighbours of a magnitude
reads back as that magnitude, and so do the midpoints themselves when its mantissa is even. The
shortest decimal is the one with the fewest digits among those, and the nearest of them; a rule
for ties tells which of two that are equally near.
-/

namespace AutomataRequest.Number

/-- The value `digits * 10 ^ exponent`. -/
structure ShortDecimal where
  digits : Nat
  exponent : Int
  deriving DecidableEq, Repr

namespace ShortDecimal

/-- Drops up to `bound` final zeros. -/
def dropZeros : Nat → ShortDecimal → ShortDecimal
  | 0, decimal => decimal
  | bound + 1, decimal =>
      if decimal.digits ≠ 0 ∧ decimal.digits % 10 = 0 then
        dropZeros bound ⟨decimal.digits / 10, decimal.exponent + 1⟩
      else decimal

end ShortDecimal

/-- Which of two neighbours stands for what is halfway between them. -/
inductive TieRule where
  | toEven
  | up
  deriving DecidableEq, Repr

/-- True if a halfway value goes to the neighbour above `below`. -/
def TieRule.goesUp (tie : TieRule) (below : Nat) : Bool :=
  match tie with
  | .toEven => below % 2 = 1
  | .up => true

namespace Magnitude

/-- Four times the mantissa, so that the midpoints to both neighbours are whole as well. -/
def quadruple (size : Magnitude) : Nat := 4 * size.mantissa

/-- Below a power of two the neighbour is only half as far. -/
def lowerMidpoint (size : Magnitude) : Nat :=
  if size.mantissa = twoTo 52 ∧ leastExponent < size.exponent then size.quadruple - 1
  else size.quadruple - 2

def upperMidpoint (size : Magnitude) : Nat := size.quadruple + 2

def firstPlace (size : Magnitude) : Int :=
  let whole := size.numerator / size.denominator
  if whole ≠ 0 then Int.ofNat (Nat.toDigits 10 whole).length - 1
  else -Int.ofNat (Nat.toDigits 10 (size.denominator / size.numerator)).length

/-- The decimal nearest to a magnitude with its last digit at `place`, if one of the two
around it reads back. Quarters of the magnitude count `scale` units each and decimals at
that place count `step` units each. -/
def decimalAt? (size : Magnitude) (tie : TieRule) (place : Int) : Option ShortDecimal :=
  let quarter := size.exponent - 2
  let scale := twoTo quarter.toNat * tenTo (-place).toNat
  let step := tenTo place.toNat * twoTo (-quarter).toNat
  let exact := size.quadruple * scale
  let low := size.lowerMidpoint * scale
  let high := size.upperMidpoint * scale
  let readsBack (digits : Nat) : Bool :=
    if size.mantissa % 2 = 0 then low ≤ digits * step && digits * step ≤ high
    else low < digits * step && digits * step < high
  let below := exact / step
  let above := below + 1
  let toBelow := exact - below * step
  let toAbove := above * step - exact
  let goesUp := toAbove < toBelow || (toAbove == toBelow && tie.goesUp below)
  let nearer := if goesUp then above else below
  let further := if nearer = below then above else below
  if readsBack nearer then some ⟨nearer, place⟩
  else if readsBack further then some ⟨further, place⟩
  else none

/-- Seventeen digits are always enough. -/
def shortest (size : Magnitude) (tie : TieRule) : ShortDecimal :=
  if size.isZero then ⟨0, 0⟩ else
    let found := (List.range 17).findSome? fun extra =>
      size.decimalAt? tie (size.firstPlace - Int.ofNat extra)
    match found with
    | some decimal => decimal.dropZeros 17
    | none => ⟨0, 0⟩

end Magnitude

end AutomataRequest.Number

/-!
The shortest decimal of a binary floating-point number. A positive double is a whole number of
quarters of its last place's unit, and so are the two ends of the interval of reals that round to
it. Of the grids of multiples of a power of ten, the coarsest one with a point in that interval
gives the fewest digits; of its points there, the one nearest to the number is taken.
-/

namespace Rollup.Decimal

/-- The bit that tells the sign, as a number. -/
def signBit : Nat := Nat.pow 2 63

/-- The leading bit of a mantissa, which is not stored. -/
def hiddenBit : Nat := Nat.pow 2 52

/-- The mantissa and the exponent of a finite double without its sign. -/
def binaryOf (x : Float) : Nat × Int :=
  let bits := x.toBits.toNat % signBit
  let fraction := bits % hiddenBit
  let field := bits / hiddenBit
  if field = 0 then (fraction, -1074) else (hiddenBit + fraction, (field : Int) - 1075)

/-- Whether the sign of a double is a minus, which zero may have too. -/
def isNegative (x : Float) : Bool := signBit ≤ x.toBits.toNat

def isInteger (x : Float) (n : Int) : Bool :=
  let (mantissa, exponent) := binaryOf x
  let size := mantissa * Nat.pow 2 exponent.toNat
  let numerator : Int := if isNegative x then -size else size
  x.isFinite && numerator == n * Nat.pow 2 (-exponent).toNat

/-- The reals that round to a positive number, in multiples of `2 ^ exponent`. -/
structure Interval where
  least : Nat
  number : Nat
  greatest : Nat
  exponent : Int
  /-- Whether the two ends round to the number themselves. -/
  closed : Bool
deriving DecidableEq, Repr

/-- The interval of `mantissa * 2 ^ exponent`. Below a power of two the numbers lie twice as close,
unless they are the smallest ones there are. -/
def Interval.ofBinary (mantissa : Nat) (exponent : Int) : Interval :=
  let below := if mantissa = hiddenBit ∧ -1074 < exponent then 1 else 2
  { least := 4 * mantissa - below
    number := 4 * mantissa
    greatest := 4 * mantissa + 2
    exponent := exponent - 2
    closed := mantissa % 2 == 0 }

/-- Factors that bring binary units and powers of ten to whole numbers: `u * 2 ^ binary` is at most
`n * 10 ^ decimal` exactly if `u * units` is at most `n * steps`. -/
def commonUnits (binary decimal : Int) : Nat × Nat :=
  (Nat.pow 2 binary.toNat * Nat.pow 10 (-decimal).toNat,
    Nat.pow 2 (-binary).toNat * Nat.pow 10 decimal.toNat)

/-- Whether `n * 10 ^ decimal` rounds to the number. -/
def Interval.holds (interval : Interval) (n : Nat) (decimal : Int) : Bool :=
  let (units, steps) := commonUnits interval.exponent decimal
  if interval.closed then
    interval.least * units ≤ n * steps && n * steps ≤ interval.greatest * units
  else interval.least * units < n * steps && n * steps < interval.greatest * units

/-- The multiple of `10 ^ decimal` nearest to the number among those that round to it; of two as
near, the even one. -/
def Interval.nearest? (interval : Interval) (decimal : Int) : Option Nat :=
  let (units, steps) := commonUnits interval.exponent decimal
  let under := interval.number * units / steps
  let toUnder := interval.number * units - under * steps
  let toOver := (under + 1) * steps - interval.number * units
  let underFits := under ≠ 0 && interval.holds under decimal
  let overFits := interval.holds (under + 1) decimal
  if underFits && overFits then
    if toUnder < toOver || toUnder = toOver && under % 2 = 0 then some under else some (under + 1)
  else if underFits then some under
  else if overFits then some (under + 1)
  else none

/-- Digits and the power of ten that they are multiplied by. -/
structure Scientific where
  digits : Nat
  exponent : Int
deriving DecidableEq, Repr

/-- The first grid with a point in the interval, from `10 ^ decimal` down through `tries` further
powers of ten. -/
def Interval.coarsest (interval : Interval) (decimal : Int) : Nat → Scientific
  | 0 => ⟨(interval.nearest? decimal).getD 0, decimal⟩
  | tries + 1 =>
    match interval.nearest? decimal with
    | some digits => ⟨digits, decimal⟩
    | none => interval.coarsest (decimal - 1) tries

/-- How many digits the whole part of a double has. -/
def wholeDigits (mantissa : Nat) (exponent : Int) : Nat :=
  let whole := mantissa * Nat.pow 2 exponent.toNat / Nat.pow 2 (-exponent).toNat
  (Nat.toDigits 10 whole).length

/-- The shortest decimal that rounds to a finite double, its sign left aside. -/
def shortest (x : Float) : Scientific :=
  let (mantissa, exponent) := binaryOf x
  if mantissa = 0 then ⟨0, 0⟩
  else
    let top := wholeDigits mantissa exponent
    (Interval.ofBinary mantissa exponent).coarsest top (top + 324)

end Rollup.Decimal

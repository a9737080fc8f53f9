/-!
# Binary floating point with 64 bits

A finite number of the binary64 format is a natural multiple of the least
positive one, `2 ^ -1074`, with a sign.  `Binary64` stores that multiple, so a
number is exact data: equality is decidable, `-0.0` differs from `0.0`, and
every operation is the exact result, computed on naturals, rounded once.

## Main definitions

* `roundUnits num den` rounds the quotient `num / den` to the nearest
  natural with at most 53 significant bits, ties going to even.
* `mul`, `div`, `add` and `ofNat` are the operations on numbers.
* `IsFinite` says that a result did not leave the range of the format.
-/

namespace InfraSynth

/-- A number of the binary64 format: a sign, and the magnitude counted in units
of `2 ^ -1074`. -/
structure Binary64 where
  negative : Bool
  units : Nat
  deriving DecidableEq, Repr

namespace Binary64

/-- One, in units. -/
def one : Nat := Nat.pow 2 1074

/-- The greatest magnitude of the format, in units. -/
def maxUnits : Nat := (Nat.pow 2 53 - 1) * Nat.pow 2 2045

/-- The quotient `num / den` rounded to the nearest natural, a half going to
the even neighbour. -/
def roundHalfEven (num den : Nat) : Nat :=
  let floor := num / den
  let twice := 2 * (num % den)
  if twice < den then floor
  else if den < twice then floor + 1
  else if floor % 2 = 0 then floor
  else floor + 1

/-- The distance between neighbours at a magnitude: 53 bits are significant,
and below `2 ^ 53` units every natural is a number of the format. -/
def spacing (units : Nat) : Nat :=
  Nat.pow 2 (Nat.log2 units - 52)

/-- The quotient `num / den` rounded to the nearest magnitude of the format. -/
def roundUnits (num den : Nat) : Nat :=
  let gap := spacing (num / den)
  roundHalfEven num (den * gap) * gap

/-- Whether the magnitude lies within the range of the format. -/
def IsFinite (x : Binary64) : Prop :=
  x.units ≤ maxUnits

instance (x : Binary64) : Decidable x.IsFinite :=
  inferInstanceAs (Decidable (x.units ≤ maxUnits))

/-- Positive zero. -/
def zero : Binary64 := ⟨false, 0⟩

/-- Negative zero, which a sum of no numbers gives. -/
def negativeZero : Binary64 := ⟨true, 0⟩

/-- The number nearest to the fraction `num / den`. -/
def ofRatio (negative : Bool) (num den : Nat) : Binary64 :=
  ⟨negative, roundUnits (num * one) den⟩

/-- The number nearest to a natural. -/
def ofNat (n : Nat) : Binary64 :=
  ofRatio false n 1

/-- The number nearest to an integer. -/
def ofInt (i : Int) : Binary64 :=
  ofRatio (i < 0) i.natAbs 1

/-- The same magnitude with the other sign. -/
def neg (x : Binary64) : Binary64 :=
  ⟨!x.negative, x.units⟩

/-- The product, rounded. -/
def mul (x y : Binary64) : Binary64 :=
  ⟨x.negative ^^ y.negative, roundUnits (x.units * y.units) one⟩

/-- The quotient, rounded; the divisor is not zero. -/
def div (x y : Binary64) : Binary64 :=
  ⟨x.negative ^^ y.negative, roundUnits (x.units * one) y.units⟩

/-- The sum, rounded.  Two opposite magnitudes cancel to positive zero, and
only two negative zeros add up to negative zero. -/
def add (x y : Binary64) : Binary64 :=
  if x.negative = y.negative then ⟨x.negative, roundUnits (x.units + y.units) 1⟩
  else if y.units < x.units then ⟨x.negative, roundUnits (x.units - y.units) 1⟩
  else if x.units < y.units then ⟨y.negative, roundUnits (y.units - x.units) 1⟩
  else zero

/-- The sum of a list from the left, which for no numbers is negative zero. -/
def sum (xs : List Binary64) : Binary64 :=
  xs.foldl add negativeZero

/-- The number nearest to `coefficient * 10 ^ exponent`. -/
def ofDecimal (negative : Bool) (coefficient : Nat) (exponent : Int) : Binary64 :=
  if 0 ≤ exponent then ofRatio negative (coefficient * Nat.pow 10 exponent.toNat) 1
  else ofRatio negative coefficient (Nat.pow 10 (-exponent).toNat)

end Binary64

end InfraSynth

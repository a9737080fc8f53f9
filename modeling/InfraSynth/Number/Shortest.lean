import InfraSynth.Number.Binary64

/-!
# The shortest decimal that reads back

Among the decimals that round to a given binary64 number, `shortest` finds one
with the fewest digits, and of those the nearest to the number.

## Strategy

The reals that round to a number form an interval, whose ends belong to it
exactly if the number's significand is even.  For 1, 2, … 17 digits the value
lies between two neighbours of the decimal grid with that many digits; the
first grid one of whose neighbours lies in the interval gives the answer.  All
comparisons are between naturals.
-/

namespace InfraSynth.Binary64

/-- A decimal `coefficient * 10 ^ exponent`. -/
structure Decimal where
  coefficient : Nat
  exponent : Int
  deriving DecidableEq, Repr

/-- The reals that round to a magnitude, with their ends in units of
`2 ^ -1075`. -/
structure Rounding where
  low : Nat
  middle : Nat
  high : Nat
  closed : Bool

/-- The interval of reals that round to a positive magnitude.  At a power of
two the neighbour below is half as far as the one above. -/
def rounding (units : Nat) : Rounding :=
  let gap := spacing units
  let below := if 1 < gap ∧ units / gap = Nat.pow 2 52 then gap / 2 else gap
  { low := 2 * units - below
    middle := 2 * units
    high := 2 * units + gap
    closed := units / gap % 2 = 0 }

/-- How many tenfold steps bring a magnitude below one up to one. -/
def stepsToOne : Nat → Nat → Nat
  | 0, _ => 0
  | fuel + 1, units => if one ≤ units then 0 else stepsToOne fuel (10 * units) + 1

/-- The exponent of the leading decimal digit of a positive magnitude. -/
def leadingExponent (units : Nat) : Int :=
  if one ≤ units then (Nat.toDigits 10 (units / one)).length - 1
  else - (stepsToOne 400 units : Int)

/-- The numerator over `2 ^ 1075` and the denominator of `10 ^ exponent`. -/
def gridStep (exponent : Int) : Nat × Nat :=
  if 0 ≤ exponent then (Nat.pow 10 exponent.toNat * (2 * one), 1)
  else (2 * one, Nat.pow 10 (-exponent).toNat)

/-- Whether the decimal lies in the interval. -/
def Rounding.contains (r : Rounding) (d : Decimal) : Bool :=
  let (num, den) := gridStep d.exponent
  let value := d.coefficient * num
  if r.closed then r.low * den ≤ value ∧ value ≤ r.high * den
  else r.low * den < value ∧ value < r.high * den

/-- The nearer of a decimal and its successor on the same grid, the even one of
two that are equally near. -/
def Rounding.nearer (r : Rounding) (d : Decimal) : Decimal :=
  let (num, den) := gridStep d.exponent
  let below := r.middle * den - d.coefficient * num
  let above := (d.coefficient + 1) * num - r.middle * den
  if below < above then d
  else if above < below then { d with coefficient := d.coefficient + 1 }
  else if d.coefficient % 2 = 0 then d
  else { d with coefficient := d.coefficient + 1 }

/-- A decimal of the grid `10 ^ exponent` that rounds to the number, if there
is one. -/
def Rounding.onGrid (r : Rounding) (exponent : Int) : Option Decimal :=
  let (num, den) := gridStep exponent
  let below : Decimal := ⟨r.middle * den / num, exponent⟩
  let above : Decimal := { below with coefficient := below.coefficient + 1 }
  match r.contains below, r.contains above with
  | true, true => some (r.nearer below)
  | true, false => some below
  | false, true => some above
  | false, false => none

/-- The first grid that has a decimal in the interval, from coarse to fine. -/
def Rounding.search (r : Rounding) : Nat → Int → Decimal
  | 0, exponent => (r.onGrid exponent).getD ⟨0, 0⟩
  | fuel + 1, exponent =>
    match r.onGrid exponent with
    | some d => d
    | none => r.search fuel (exponent - 1)

/-- The shortest decimal that rounds to a positive magnitude. -/
def shortest (units : Nat) : Decimal :=
  (rounding units).search 17 (leadingExponent units)

end InfraSynth.Binary64

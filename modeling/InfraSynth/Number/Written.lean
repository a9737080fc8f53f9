import InfraSynth.Number.Shortest

/-!
# Written numbers

Two ways of writing a binary64 number: `text`, the shortest decimal that reads
back, and `money`, two places after the point.

`text` is positional for numbers of at least `10 ^ -5` and below `10 ^ 16`, and
whole numbers keep a `.0`; all others have one digit before the point and an
exponent with its sign.
-/

namespace InfraSynth.Binary64

/-- The significant digits of a number, without zeros at the end, and the
exponent of the first of them. -/
structure Scientific where
  digits : List Char
  exponent : Int

/-- A decimal with its digits spelled out. -/
def Decimal.scientific (d : Decimal) : Scientific :=
  let digits := Nat.toDigits 10 d.coefficient
  { digits := (digits.reverse.dropWhile (· = '0')).reverse
    exponent := d.exponent + (digits.length - 1 : Nat) }

/-- Digits before and after a point, with a zero where there are none. -/
private def withPoint (whole fraction : List Char) : List Char :=
  let orZero (digits : List Char) := if digits.isEmpty then ['0'] else digits
  orZero whole ++ '.' :: orZero fraction

/-- Positional writing. -/
def Scientific.positional (s : Scientific) : List Char :=
  if 0 ≤ s.exponent then
    let places := s.exponent.toNat + 1
    let padded := s.digits ++ List.replicate (places - s.digits.length) '0'
    withPoint (padded.take places) (padded.drop places)
  else
    withPoint [] (List.replicate ((-s.exponent).toNat - 1) '0' ++ s.digits)

/-- Writing with an exponent; a lone digit stands without a point. -/
def Scientific.exponential (s : Scientific) : List Char :=
  let mantissa := match s.digits with
    | [] => ['0']
    | [digit] => [digit]
    | digit :: rest => digit :: '.' :: rest
  let sign := if 0 ≤ s.exponent then '+' else '-'
  mantissa ++ 'e' :: sign :: Nat.toDigits 10 s.exponent.natAbs

/-- The magnitude as text. -/
def magnitudeText (units : Nat) : List Char :=
  if units = 0 then ['0', '.', '0']
  else
    let s := (shortest units).scientific
    if -5 ≤ s.exponent ∧ s.exponent < 16 then s.positional else s.exponential

/-- The number as text. -/
def chars (x : Binary64) : List Char :=
  if x.negative then '-' :: magnitudeText x.units else magnitudeText x.units

/-- The number as text. -/
def text (x : Binary64) : String :=
  String.ofList x.chars

/-- The number with two places after the point, as amounts of money are
printed.  The sign of zero is kept. -/
def money (x : Binary64) : String :=
  let cents := Nat.toDigits 10 (roundHalfEven (x.units * 100) one)
  let padded := List.replicate (3 - cents.length) '0' ++ cents
  let places := padded.length - 2
  let amount := padded.take places ++ '.' :: padded.drop places
  String.ofList (if x.negative then '-' :: amount else amount)

end InfraSynth.Binary64

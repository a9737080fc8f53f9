/-!
# Numerals in text

`natural?` reads a decimal numeral the way a port or a netmask may be given:
one or more ASCII digits, leading zeros allowed, with an optional plus sign,
and a value that does not exceed a bound.  `inBase?` reads numerals in bases up
to sixteen, and `charOfHex?` a character that is given by its number.
-/

namespace InfraSynth.Text

/-- Whether a character is one of the ten ASCII digits. -/
def isAsciiDigit (c : Char) : Bool :=
  '0' ≤ c && c ≤ '9'

/-- The value of an ASCII digit. -/
def digitValue (c : Char) : Nat :=
  c.toNat - '0'.toNat

/-- The value of a run of ASCII digits. -/
def digitsValue (digits : List Char) : Nat :=
  digits.foldl (fun value c => 10 * value + digitValue c) 0

/-- The value of a non-empty run of ASCII digits, if it is at most `bound`. -/
def digits? (bound : Nat) (text : List Char) : Option Nat :=
  if text ≠ [] ∧ text.all isAsciiDigit = true ∧ digitsValue text ≤ bound then
    some (digitsValue text)
  else none

/-- The value of a numeral with an optional plus sign, if it is at most
`bound`. -/
def natural? (bound : Nat) (text : String) : Option Nat :=
  match text.toList with
  | '+' :: digits => digits? bound digits
  | digits => digits? bound digits

/-! ## Other bases -/

/-- The value of a digit of a base up to sixteen; letters go on after nine. -/
def digit? (base : Nat) (c : Char) : Option Nat :=
  let value :=
    if isAsciiDigit c then some (digitValue c)
    else if 'a' ≤ c ∧ c ≤ 'f' then some (c.toNat - 'a'.toNat + 10)
    else if 'A' ≤ c ∧ c ≤ 'F' then some (c.toNat - 'A'.toNat + 10)
    else none
  value.filter (· < base)

/-- The value of a non-empty run of digits of a base. -/
def inBase? (base : Nat) (digits : List Char) : Option Nat :=
  if digits.isEmpty then none
  else digits.foldlM (fun value c => do return base * value + (← digit? base c)) 0

/-- The character with a number in hexadecimal digits. -/
def charOfHex? (digits : List Char) : Option Char := do
  let value ← inBase? 16 digits
  if value.isValidChar then some (Char.ofNat value) else none

end InfraSynth.Text

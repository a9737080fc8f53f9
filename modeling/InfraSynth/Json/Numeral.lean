import InfraSynth.Json.Basic
import InfraSynth.Json.Fault
import InfraSynth.Text.Numeral

/-!
# Numbers in JSON texts

A numeral without point and exponent is an integer if it fits into 64 bits,
signed or unsigned.  Every other numeral is a binary64 number, computed from
its leading digits: at most as many as fit into 64 bits are taken, and the
result is scaled by a rounded power of ten.  This is at most a few units away
from the nearest number, so the text of a number need not read back as the
number itself.
-/

namespace InfraSynth.Json

open Text (isAsciiDigit digitValue)

/-- The greatest value whose digits are all taken. -/
def maxSignificand : Nat := UInt64.size - 1

/-- The greatest exponent that is written out. -/
def maxExponent : Nat := Nat.pow 2 31 - 1

/-- Digits taken so far, and how many have been seen since they were full. -/
structure Digits where
  value : Nat
  taken : Nat
  full : Bool
  dropped : Nat

/-- Take one more digit, unless the value would grow beyond a bound.  Once a
digit has been dropped all later ones are. -/
def Digits.push (bound : Nat) (digits : Digits) (c : Char) : Digits :=
  let value := 10 * digits.value + digitValue c
  if !digits.full && value ≤ bound then { digits with value, taken := digits.taken + 1 }
  else { digits with full := true, dropped := digits.dropped + 1 }

/-- Take the digits at the front of a text. -/
def takeDigits (bound value : Nat) (text : List Char) : Digits × List Char :=
  ((text.takeWhile isAsciiDigit).foldl (Digits.push bound) ⟨value, 0, false, 0⟩,
    text.dropWhile isAsciiDigit)

/-- A rounded power of ten. -/
def powerOfTen (exponent : Nat) : Binary64 :=
  .ofRatio false (Nat.pow 10 exponent) 1

/-- The magnitude `significand * 10 ^ exponent`, or none if it is out of range.
Below `10 ^ -308` the power is divided out in two steps. -/
def scale (significand : Nat) (exponent : Int) : Option Binary64 :=
  let start := Binary64.ofNat significand
  if 0 ≤ exponent then
    if exponent ≤ 308 then
      let result := start.mul (powerOfTen exponent.toNat)
      if result.IsFinite then some result else none
    else if significand = 0 then some start
    else none
  else
    let places := (-exponent).toNat
    if places ≤ 308 then some (start.div (powerOfTen places))
    else if places ≤ 616 then
      some ((start.div (powerOfTen 308)).div (powerOfTen (places - 308)))
    else some .zero

/-- Give a magnitude its sign. -/
def signed (negative : Bool) (x : Binary64) : Number :=
  .float (if negative then x.neg else x)

/-- The number with the given digits and exponent. -/
def ofParts (negative : Bool) (significand : Nat) (exponent : Int) (rest : List Char) :
    Except Fault (Number × List Char) :=
  match scale significand exponent with
  | some x => .ok (signed negative x, rest)
  | none => .error (.before .numberOutOfRange rest)

/-- Whether the sign at the front of a text is a minus, and the text after the
sign. -/
def takeSign : List Char → Bool × List Char
  | '+' :: rest => (false, rest)
  | '-' :: rest => (true, rest)
  | rest => (false, rest)

/-- The exponent of a numeral, after its sign, which is a minus if `below` is
set.  An exponent that is too large to be written out stands for zero if it is
negative or nothing is scaled. -/
def readUnsignedExponent (negative below : Bool) (significand : Nat) (exponent : Int) :
    List Char → Except Fault (Number × List Char)
  | [] => .error (.before .valueEnds [])
  | c :: rest =>
    if !isAsciiDigit c then .error (.at .invalidNumber (c :: rest))
    else
      let (digits, rest') := takeDigits maxExponent (digitValue c) rest
      if digits.dropped = 0 then
        ofParts negative significand
          (if below then exponent - digits.value else exponent + digits.value) rest'
      else if significand ≠ 0 ∧ !below then
        .error (.before .numberOutOfRange (rest.drop (digits.taken + 1)))
      else .ok (signed negative .zero, rest')

/-- The exponent of a numeral, after its `e`. -/
def readExponent (negative : Bool) (significand : Nat) (exponent : Int) (text : List Char) :
    Except Fault (Number × List Char) :=
  let (below, text) := takeSign text
  readUnsignedExponent negative below significand exponent text

/-- What may follow the digits of a numeral that is not an integer. -/
def readScale (negative : Bool) (significand : Nat) (exponent : Int) :
    List Char → Except Fault (Number × List Char)
  | 'e' :: rest | 'E' :: rest => readExponent negative significand exponent rest
  | rest => ofParts negative significand exponent rest

/-- The digits after the point of a numeral. -/
def readFraction (negative : Bool) (significand : Nat) (exponent : Int) (text : List Char) :
    Except Fault (Number × List Char) :=
  let (digits, rest) := takeDigits maxSignificand significand text
  if digits.taken = 0 ∧ digits.dropped = 0 then
    match rest with
    | [] => .error (.at .valueEnds [])
    | rest => .error (.at .invalidNumber rest)
  else readScale negative digits.value (exponent - digits.taken) rest

/-- The value of a numeral without point and exponent. -/
def integer (negative : Bool) (significand : Nat) : Number :=
  if !negative then .int significand
  else if significand = 0 ∨ Nat.pow 2 63 < significand then signed true (.ofNat significand)
  else .int (-significand)

/-- What may follow the digits at the front of a numeral. -/
def readRemainder (negative : Bool) (digits : Digits) :
    List Char → Except Fault (Number × List Char)
  | '.' :: rest => readFraction negative digits.value digits.dropped rest
  | rest =>
    if digits.dropped = 0 ∧ rest.head? ≠ some 'e' ∧ rest.head? ≠ some 'E' then
      .ok (integer negative digits.value, rest)
    else readScale negative digits.value digits.dropped rest

/-- A numeral after its sign. -/
def readMagnitude (negative : Bool) : List Char → Except Fault (Number × List Char)
  | [] => .error (.before .valueEnds [])
  | c :: rest =>
    if !isAsciiDigit c then .error (.at .invalidNumber (c :: rest))
    else if c = '0' ∧ (rest.head?.any isAsciiDigit) = true then .error (.at .invalidNumber rest)
    else
      let (digits, rest) := takeDigits maxSignificand (digitValue c) rest
      readRemainder negative digits rest

/-- A numeral. -/
def readNumber : List Char → Except Fault (Number × List Char)
  | '-' :: rest => readMagnitude true rest
  | rest => readMagnitude false rest

end InfraSynth.Json

import InfraSynth.Json.Fault
import InfraSynth.Text.Numeral

/-!
# Strings in JSON texts

A character outside the basic plane may be written as two escapes, a leading
and a trailing surrogate.  A surrogate on its own is a fault, and so are the
controls below the space.
-/

namespace InfraSynth.Json

/-- The number written by four hexadecimal digits. -/
def readUnit (text : List Char) : Except Fault (Nat × List Char) :=
  if byteLength text < 4 then .error ⟨.stringEnds, 0⟩
  else match Text.inBase? 16 (text.take 4) with
    | some unit => .ok (unit, text.drop 4)
    | none => .error ⟨.invalidEscape, byteLength text - 4⟩

/-- The backslash and the letter between two surrogates. -/
def readSecondEscape (letter : Char) : List Char → Except Fault (List Char)
  | [] => .error (.before .stringEnds [])
  | c :: rest => if c = letter then .ok rest else .error (.at .unfinishedSurrogate (c :: rest))

/-- The character written by number, after `\u`. -/
def readCodePoint (text : List Char) : Except Fault (Char × List Char) := do
  let (unit, rest) ← readUnit text
  if 0xDC00 ≤ unit ∧ unit ≤ 0xDFFF then
    .error (.before .loneSurrogate rest)
  else if 0xD800 ≤ unit ∧ unit ≤ 0xDBFF then
    let rest ← readSecondEscape '\\' rest
    let rest ← readSecondEscape 'u' rest
    let (second, rest) ← readUnit rest
    if second < 0xDC00 ∨ 0xDFFF < second then
      .error (.before .loneSurrogate rest)
    else
      .ok (Char.ofNat (0x10000 + (unit - 0xD800) * 0x400 + (second - 0xDC00)), rest)
  else .ok (Char.ofNat unit, rest)

/-- The character that an escape stands for, after the backslash. -/
def readEscape : List Char → Except Fault (Char × List Char)
  | [] => .error (.before .stringEnds [])
  | '"' :: rest => .ok ('"', rest)
  | '\\' :: rest => .ok ('\\', rest)
  | '/' :: rest => .ok ('/', rest)
  | 'b' :: rest => .ok ('\x08', rest)
  | 'f' :: rest => .ok ('\x0c', rest)
  | 'n' :: rest => .ok ('\n', rest)
  | 'r' :: rest => .ok ('\r', rest)
  | 't' :: rest => .ok ('\t', rest)
  | 'u' :: rest => readCodePoint rest
  | rest => .error (.at .invalidEscape rest)

/-- The characters up to the closing quote, at most as many as the first
argument says. -/
def readChars : Nat → List Char → Except Fault (List Char × List Char)
  | 0, rest => .error (.before .stringEnds rest)
  | _ + 1, [] => .error (.before .stringEnds [])
  | fuel + 1, c :: rest =>
    if c = '"' then .ok ([], rest)
    else if c = '\\' then do
      let (escaped, rest) ← readEscape rest
      let (chars, rest) ← readChars fuel rest
      return (escaped :: chars, rest)
    else if c.toNat < 0x20 then .error (.before .controlCharacter rest)
    else do
      let (chars, rest) ← readChars fuel rest
      return (c :: chars, rest)

/-- A string, after its opening quote. -/
def readString (text : List Char) : Except Fault (String × List Char) := do
  let (chars, rest) ← readChars (text.length + 1) text
  return (String.ofList chars, rest)

end InfraSynth.Json

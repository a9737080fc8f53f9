import InfraSynth.Pattern.Flags
import InfraSynth.Text.Numeral

/-!
# Escapes in patterns

What a backslash and the text after it stand for: a character, a class of
characters, or a statement about a place.
-/

namespace InfraSynth.Pattern

open Text (charOfHex? digit?)

/-- What a backslash and the text after it stand for. -/
inductive Escape
  | char (c : Char)
  | set (chars : CharSet)
  | assertion (claim : Assertion)

/-! ## Characters by number -/

/-- Digits up to a closing brace. -/
private def bracedDigits? (flags : Flags) : Nat → List Char → Option (List Char × List Char)
  | 0, _ => none
  | fuel + 1, text =>
    match flags.skip text with
    | [] => none
    | '}' :: rest => some ([], flags.skip rest)
    | c :: rest => do
      let _ ← digit? 16 c
      let (digits, rest) ← bracedDigits? flags fuel rest
      some (c :: digits, rest)

/-- So many digits. -/
private def countedDigits? (flags : Flags) : Nat → List Char → Option (List Char × List Char)
  | 0, text => some ([], text)
  | count + 1, text =>
    match flags.skip text with
    | [] => none
    | c :: rest => do
      let _ ← digit? 16 c
      let (digits, rest) ← countedDigits? flags count rest
      some (c :: digits, rest)

/-- A character given by number, after the letter that says how many digits stand
without braces.  Two digits alone mean a byte where only ASCII can be told
apart. -/
private def readNumber? (flags : Flags) (width : Nat) (text : List Char) :
    Option (Escape × List Char) :=
  match flags.skip text with
  | '{' :: rest => do
    let (digits, rest) ← bracedDigits? flags (rest.length + 1) rest
    some (.char (← charOfHex? digits), rest)
  | rest => do
    let (digits, rest) ← countedDigits? flags width rest
    let c ← charOfHex? digits
    if width = 2 ∧ !flags.has .allScripts ∧ 0x80 ≤ c.toNat then none
    some (.char c, flags.skip rest)

/-! ## Classes -/

/-- One of the classes that have a letter, in all scripts or in ASCII; a capital
letter negates it. -/
private def letterClass? (flags : Flags) (negated : Bool) (wide narrow : CharSet) :
    Option Escape :=
  .set <$> flags.negate? negated (if flags.has .allScripts then wide else narrow)

/-- The white space of ASCII. -/
def asciiSpace : CharSet :=
  .ofText "\t\n\x0b\x0c\x0d "

/-- The word characters of ASCII. -/
def asciiWord : CharSet :=
  .union .alphanumeric (.single '_')

/-- The text up to the first place where another one stands, and what comes after
that one. -/
private def splitAt? (mark : List Char) : List Char → Option (List Char × List Char)
  | [] => none
  | c :: rest =>
    if mark.isPrefixOf (c :: rest) then some ([], (c :: rest).drop mark.length)
    else do
      let (before, after) ← splitAt? mark rest
      some (c :: before, after)

/-- The property that is named between braces: by a value alone, or by an aspect
and a value with a sign between them. -/
def namedProperty? (name : List Char) : Option Unicode.Property :=
  match [['!', '='], [':'], ['=']].findSome? (splitAt? · name) with
  | some (aspect, value) => Unicode.Property.ofNames? (String.ofList aspect) (String.ofList value)
  | none => Unicode.Property.ofName? (String.ofList name)

/-- A name up to a closing brace. -/
private def bracedName? (flags : Flags) : Nat → List Char → Option (List Char × List Char)
  | 0, _ => none
  | fuel + 1, text =>
    match flags.skip text with
    | [] => none
    | '}' :: rest => some ([], rest)
    | c :: rest => do
      let (name, rest) ← bracedName? flags fuel rest
      some (c :: name, rest)

/-- The characters with a property. -/
private def readProperty? (flags : Flags) (negated : Bool) (text : List Char) :
    Option (Escape × List Char) := do
  let (property, rest) ← match flags.skip text with
    | [] | '\\' :: _ => none
    | '{' :: rest => do
      let (name, rest) ← bracedName? flags (rest.length + 1) rest
      some (← namedProperty? name, rest)
    | c :: rest => some (← Unicode.Property.ofName? (String.singleton c), flags.skip rest)
  if !flags.has .allScripts then none
  some (.set (← flags.negate? negated (flags.fold (.property property))), rest)

/-! ## Assertions -/

/-- The statements about words that are named between braces. -/
def namedClaims : List (String × WordClaim) := [
  ("start", .start),
  ("end", .ending),
  ("start-half", .clearBefore),
  ("end-half", .clearAfter)]

/-- Letters and hyphens up to a closing brace. -/
private def claimName? (flags : Flags) : Nat → List Char → Option (List Char × List Char)
  | 0, _ => none
  | fuel + 1, text =>
    match flags.skip text with
    | '}' :: rest => some ([], rest)
    | c :: rest =>
      if c.isAlpha ∨ c = '-' then do
        let (name, rest) ← claimName? flags fuel rest
        some (c :: name, rest)
      else none
    | [] => none

/-- A statement about words, after its letter.  Braces after it may name one if a
letter or a hyphen comes first in them. -/
private def readClaim? (flags : Flags) (text : List Char) : Option (WordClaim × List Char) :=
  match text with
  | '{' :: rest =>
    match flags.skip rest with
    | [] => none
    | c :: more =>
      if c.isAlpha ∨ c = '-' then do
        let (name, rest) ← claimName? flags (more.length + 2) (c :: more)
        some (← namedClaims.lookup (String.ofList name), rest)
      else some (.boundary, text)
  | _ => some (.boundary, text)

/-! ## Escapes -/

/-- Whether a character stands for itself after a backslash. -/
private def isEscapable (c : Char) : Bool :=
  c.toNat < 0x80 && !c.isAlphanum && c ≠ '<' && c ≠ '>'

/-- What a backslash stands for, given what comes after it. -/
def readEscape (flags : Flags) : List Char → Option (Escape × List Char)
  | [] => none
  | c :: rest =>
    let word (claim : WordClaim) := Escape.assertion (.word flags.wordLetters claim)
    match c with
    | 'd' => do some (← letterClass? flags false .digit .asciiDigit, rest)
    | 'D' => do some (← letterClass? flags true .digit .asciiDigit, rest)
    | 's' => do some (← letterClass? flags false .space asciiSpace, rest)
    | 'S' => do some (← letterClass? flags true .space asciiSpace, rest)
    | 'w' => do some (← letterClass? flags false .word asciiWord, rest)
    | 'W' => do some (← letterClass? flags true .word asciiWord, rest)
    | 'p' => readProperty? flags false rest
    | 'P' => readProperty? flags true rest
    | 'x' => readNumber? flags 2 rest
    | 'u' => readNumber? flags 4 rest
    | 'U' => readNumber? flags 8 rest
    | 'a' => some (.char '\x07', rest)
    | 'f' => some (.char '\x0c', rest)
    | 't' => some (.char '\t', rest)
    | 'n' => some (.char '\n', rest)
    | 'r' => some (.char '\r', rest)
    | 'v' => some (.char '\x0b', rest)
    | 'A' => some (.assertion .textStart, rest)
    | 'z' => some (.assertion .textEnd, rest)
    | 'B' => some (word .noBoundary, rest)
    | '<' => some (word .start, rest)
    | '>' => some (word .ending, rest)
    | 'b' => do
      let (claim, rest) ← readClaim? flags rest
      some (word claim, rest)
    | c => if isEscapable c then some (.char c, rest) else none

end InfraSynth.Pattern

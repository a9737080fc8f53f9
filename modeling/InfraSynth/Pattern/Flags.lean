import InfraSynth.Pattern.Basic

/-!
# Flags

Flags say how the rest of a written pattern is to be understood.  They are set and
cleared by letters after a question mark, either up to the end of the group that
this stands in, or for a group of its own.

## Main definitions

* `Flags` are the flags at some place of a pattern.
* `readChanges?` reads the letters.
* `Flags.skip` drops what has no meaning at a place.
-/

namespace InfraSynth.Pattern

/-- A flag. -/
inductive Flag
  /-- Case does not matter. -/
  | ignoreCase
  /-- Lines start and end within the text too. -/
  | eachLine
  /-- A point stands for line ends too. -/
  | pointIsAll
  /-- Repetitions prefer to be short, which does not change what matches. -/
  | short
  /-- Classes and words are those of all scripts. -/
  | allScripts
  /-- Carriage returns end lines too. -/
  | returns
  /-- White space and comments have no meaning. -/
  | spaced
  deriving DecidableEq, Repr

/-- The flag with a letter. -/
def Flag.ofLetter? : Char → Option Flag
  | 'i' => some .ignoreCase
  | 'm' => some .eachLine
  | 's' => some .pointIsAll
  | 'U' => some .short
  | 'u' => some .allScripts
  | 'R' => some .returns
  | 'x' => some .spaced
  | _ => none

/-- The flags that are set. -/
abbrev Flags := List Flag

namespace Flags

/-- The flags at the beginning of a pattern. -/
def start : Flags :=
  [.allScripts]

/-- Whether a flag is set. -/
def has (flags : Flags) (flag : Flag) : Bool :=
  flags.contains flag

/-- Set or clear a flag. -/
def change (flags : Flags) : Flag × Bool → Flags
  | (flag, true) => flag :: flags
  | (flag, false) => flags.filter (· ≠ flag)

/-- The text without the white space and comments at its front, if they have no
meaning.  The flag says whether a comment has begun. -/
def skipFrom (comment : Bool) : List Char → List Char
  | [] => []
  | c :: rest =>
    if comment then skipFrom (c ≠ '\n') rest
    else if Unicode.isSpace c then skipFrom false rest
    else if c = '#' then skipFrom true rest
    else c :: rest

/-- The text without what has no meaning at its front. -/
def skip (flags : Flags) (text : List Char) : List Char :=
  if flags.has .spaced then skipFrom false text else text

/-- What ends a line. -/
def lineEnds (flags : Flags) : LineEnds :=
  if flags.has .returns then .feedOrReturn else .feed

/-- Of which characters words consist. -/
def wordLetters (flags : Flags) : WordLetters :=
  if flags.has .allScripts then .unicode else .ascii

/-- A set of characters, with those that differ in case only if case does not
matter. -/
def fold (flags : Flags) (chars : CharSet) : CharSet :=
  if !flags.has .ignoreCase then chars
  else if flags.has .allScripts then .folded chars
  else .inter (.folded chars) .ascii

/-- What is not in a set of characters.  There is no such set where only the
characters of ASCII can be told apart. -/
def negate? (flags : Flags) (negated : Bool) (chars : CharSet) : Option CharSet :=
  if !negated then some chars
  else if flags.has .allScripts then some (.complement chars)
  else none

/-- The characters that a point stands for. -/
def point? (flags : Flags) : Option CharSet :=
  if !flags.has .allScripts then none
  else if flags.has .pointIsAll then some .all
  else if flags.has .returns then some (.complement (.ofText "\n\r"))
  else some (.complement (.single '\n'))

end Flags

/-! ## Changes -/

/-- What comes after the letters of flags. -/
inductive FlagsEnd
  /-- The flags hold for what follows. -/
  | rest
  /-- They hold for a group. -/
  | group
  deriving DecidableEq

/-- Flags that are set or cleared, up to the character that ends them.  A hyphen
clears those after it; there may be one, with a letter after it, and every letter
may be given once. -/
def readChanges? (cleared : Bool) (changes : List (Flag × Bool)) :
    List Char → Option ((List (Flag × Bool) × FlagsEnd) × List Char)
  | [] => none
  | ':' :: rest => some ((changes, .group), rest)
  | ')' :: rest => if changes.isEmpty then none else some ((changes, .rest), rest)
  | '-' :: rest =>
    match cleared, rest with
    | true, _ | false, ':' :: _ | false, ')' :: _ => none
    | false, rest => readChanges? true changes rest
  | c :: rest => do
    let flag ← Flag.ofLetter? c
    if changes.any (·.1 = flag) then none
    readChanges? cleared (changes ++ [(flag, !cleared)]) rest

end InfraSynth.Pattern

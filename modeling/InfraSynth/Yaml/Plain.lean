import InfraSynth.Yaml.Scalar

/-!
# Scalars without quotes

A plain scalar ends before a colon that is followed by white space, before a
comment, and before text that is not indented enough; between brackets, commas
and brackets end it too.  White space at its end does not belong to it.
-/

namespace InfraSynth.Yaml

/-- Where a scalar stands: whether between brackets, and from which column on its
later lines are indented enough. -/
structure Surroundings where
  bracketed : Bool
  indent : Nat

/-- Whether a character separates the items between brackets. -/
def isBracketing (c : Char) : Bool :=
  c = ',' || c = '[' || c = ']' || c = '\x7b' || c = '\x7d'

/-- Characters that begin a plain scalar only in some places, or never. -/
def isIndicator (c : Char) : Bool :=
  "-?:,[]\x7b\x7d#&*!|>'\"%@`".toList.contains c

/-- Whether a plain scalar may begin here. -/
def beginsPlain (bracketed : Bool) : List Spot → Bool
  | [] => false
  | spot :: rest =>
    if spot.char = '-' then !begins isBlank rest
    else if spot.char = '?' || spot.char = ':' then !bracketed && !atGap rest
    else !isGap spot.char && !isIndicator spot.char

/-- The characters of a plain scalar up to white space or its end. -/
def plainWord? (bracketed : Bool) : Reader (List Char)
  | [] => some ([], [])
  | spot :: rest =>
    if isGap spot.char then some ([], spot :: rest)
    else if spot.char = ':' ∧ atGap rest = true then some ([], spot :: rest)
    else if bracketed ∧ isBracketing spot.char = true then some ([], spot :: rest)
    else if bracketed ∧ spot.char = ':' ∧
        begins (fun c => isBracketing c || c = '?') rest = true then none
    else do
      let (word, rest) ← plainWord? bracketed rest
      some (spot.char :: word, rest)

/-- Whether a gap has a tab where indentation is expected. -/
def hasStrayTab (indent : Nat) (gap : List Spot) : Bool :=
  (skip (!isBreak ·) gap).any fun spot => spot.char = '\t' && spot.column < indent

/-- Whether a plain scalar is over after a gap. -/
def plainEnds (place : Surroundings) (text : List Spot) : Bool :=
  begins (· = '#') text || (mark? text).isSome ||
    (!place.bracketed && text.head?.any (·.column < place.indent))

/-- A plain scalar. -/
structure PlainText where
  chars : List Char
  /-- Whether a line end follows it. -/
  endsLine : Bool

/-- A plain scalar up to the next text that does not belong to it; the number
bounds the words. -/
def plainText? (place : Surroundings) : Nat → Reader PlainText
  | 0, _ => none
  | fuel + 1, text => do
    let (word, rest) ← plainWord? place.bracketed text
    let (gap, rest) := span isGap rest
    let ended := (⟨word, gap.any (isBreak ·.char)⟩, rest)
    if gap.isEmpty then some ended
    else if hasStrayTab place.indent gap then none
    else if plainEnds place rest then some ended
    else do
      let (more, after) ← plainText? place fuel rest
      if more.chars.isEmpty then some ended
      else some (⟨word ++ fold (chars gap) ++ more.chars, more.endsLine⟩, after)

/-- A plain scalar. -/
def plain? (place : Surroundings) : Reader PlainText := fun text =>
  plainText? place (text.length + 1) text

end InfraSynth.Yaml

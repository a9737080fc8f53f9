import InfraSynth.Pattern.CharSet

/-!
# Patterns

A `Pattern` is a regular expression with counted repetition and assertions about
the characters next to a place.  `accepts` decides whether a text as a whole
matches, and `occursIn` whether some part of it does.

## Strategy

A pattern is matched by its derivatives: what has to match the rest of a text
after its first character.  An assertion holds or fails at a place, so both
`nullable` and `derivative` are told the characters around it.  Derivatives are
built with operations that drop what cannot match, keep alternatives in a list
without repetitions, and so stay small.
-/

namespace InfraSynth

/-- A place in a text: the character before it and the one after it. -/
structure Surroundings where
  before : Option Char
  after : Option Char

/-! ## Assertions -/

/-- What ends a line. -/
inductive LineEnds
  /-- Line feeds. -/
  | feed
  /-- Line feeds, carriage returns, and both together. -/
  | feedOrReturn
  deriving DecidableEq, Repr

/-- Whether a line starts at a place. -/
def LineEnds.startsAt (place : Surroundings) : LineEnds → Bool
  | feed => place.before.all (· == '\n')
  | feedOrReturn =>
    place.before.all fun c => c == '\n' || (c == '\r' && place.after != some '\n')

/-- Whether a line ends at a place. -/
def LineEnds.endsAt (place : Surroundings) : LineEnds → Bool
  | feed => place.after.all (· == '\n')
  | feedOrReturn =>
    place.after.all fun c => c == '\r' || (c == '\n' && place.before != some '\r')

/-- Of which characters words consist. -/
inductive WordLetters
  | unicode
  | ascii
  deriving DecidableEq, Repr

/-- Whether a neighbour belongs to a word. -/
def WordLetters.hasNeighbour (letters : WordLetters) (neighbour : Option Char) : Bool :=
  neighbour.any fun c => match letters with
    | unicode => Unicode.isWord c
    | ascii => c.isAlphanum || c == '_'

/-- A statement about the words beside a place. -/
inductive WordClaim
  | boundary
  | noBoundary
  | start
  | ending
  /-- No word comes before. -/
  | clearBefore
  /-- No word comes after. -/
  | clearAfter
  deriving DecidableEq, Repr

/-- Whether a statement about words holds, given whether there is one before and
one after. -/
def WordClaim.holds (before after : Bool) : WordClaim → Bool
  | boundary => before != after
  | noBoundary => before == after
  | start => !before && after
  | ending => before && !after
  | clearBefore => !before
  | clearAfter => !after

/-- A statement about a place in a text. -/
inductive Assertion
  | textStart
  | textEnd
  | lineStart (ends : LineEnds)
  | lineEnd (ends : LineEnds)
  | word (letters : WordLetters) (claim : WordClaim)
  deriving DecidableEq, Repr

/-- Whether an assertion holds at a place. -/
def Assertion.holds (place : Surroundings) : Assertion → Bool
  | textStart => place.before.isNone
  | textEnd => place.after.isNone
  | lineStart ends => ends.startsAt place
  | lineEnd ends => ends.endsAt place
  | word letters claim =>
    claim.holds (letters.hasNeighbour place.before) (letters.hasNeighbour place.after)

/-! ## Patterns -/

/-- A regular expression. -/
inductive Pattern
  /-- Matches nothing. -/
  | never
  /-- Matches the empty text. -/
  | epsilon
  | set (chars : CharSet)
  | assertion (claim : Assertion)
  | cat (first second : Pattern)
  | alt (first second : Pattern)
  /-- At least `least` and at most `most` times; without bound if `most` is
  none. -/
  | repeated (inner : Pattern) (least : Nat) (most : Option Nat)
  deriving DecidableEq, Repr

namespace Pattern

/-- Whether a pattern matches the empty text at a place. -/
def nullable (place : Surroundings) : Pattern → Bool
  | never => false
  | epsilon => true
  | set _ => false
  | assertion claim => claim.holds place
  | cat first second => first.nullable place && second.nullable place
  | alt first second => first.nullable place || second.nullable place
  | repeated inner least _ => least == 0 || inner.nullable place

/-- One pattern after another. -/
def append : Pattern → Pattern → Pattern
  | never, _ => never
  | _, never => never
  | epsilon, second => second
  | first, epsilon => first
  | first, second => cat first second

/-- Whether a pattern is one of the alternatives of another. -/
def isAlternativeOf (pattern : Pattern) : Pattern → Bool
  | alt first second => pattern == first || pattern.isAlternativeOf second
  | other => pattern == other

/-- Either of two patterns. -/
def either : Pattern → Pattern → Pattern
  | never, second => second
  | alt first rest, second =>
    let rest := either rest second
    if first.isAlternativeOf rest then rest else alt first rest
  | first, never => first
  | first, second => if first.isAlternativeOf second then second else alt first second

/-- The pattern for what follows a character at a place. -/
def derivative (place : Surroundings) (c : Char) : Pattern → Pattern
  | never | epsilon | assertion _ => never
  | set chars => if chars.contains c then epsilon else never
  | cat first second =>
    let through := append (first.derivative place c) second
    if first.nullable place then either through (second.derivative place c) else through
  | alt first second => either (first.derivative place c) (second.derivative place c)
  | repeated inner least most =>
    if most = some 0 then never
    else
      let least := if inner.nullable place then 0 else least - 1
      let rest := if most = some 1 then epsilon else repeated inner least (most.map (· - 1))
      append (inner.derivative place c) rest

/-- Whether a pattern matches all of a text that comes after a character. -/
def acceptsAfter (before : Option Char) (pattern : Pattern) : List Char → Bool
  | [] => pattern.nullable ⟨before, none⟩
  | c :: rest => acceptsAfter (some c) (pattern.derivative ⟨before, some c⟩ c) rest

/-- Whether a pattern matches a text as a whole. -/
def accepts (pattern : Pattern) (text : String) : Bool :=
  pattern.acceptsAfter none text.toList

/-- The pattern any number of times. -/
def many (pattern : Pattern) : Pattern :=
  repeated pattern 0 none

/-- The pattern at least once. -/
def atLeastOnce (pattern : Pattern) : Pattern :=
  repeated pattern 1 none

/-- The pattern or nothing. -/
def optional (pattern : Pattern) : Pattern :=
  repeated pattern 0 (some 1)

/-- The pattern a given number of times. -/
def times (count : Nat) (pattern : Pattern) : Pattern :=
  repeated pattern count (some count)

/-- The pattern a number of times between two bounds. -/
def between (least most : Nat) (pattern : Pattern) : Pattern :=
  repeated pattern least (some most)

/-- Several patterns in a row. -/
def sequence (patterns : List Pattern) : Pattern :=
  patterns.foldr cat epsilon

/-- One of several patterns. -/
def oneOf (patterns : List Pattern) : Pattern :=
  patterns.foldr alt never

/-- A text as it stands. -/
def literal (text : String) : Pattern :=
  sequence (text.toList.map fun c => set (.single c))

/-- Whether a pattern matches some part of a text. -/
def occursIn (pattern : Pattern) (text : String) : Bool :=
  (cat (many (set .all)) (cat pattern (many (set .all)))).accepts text

end Pattern

end InfraSynth

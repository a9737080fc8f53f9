import InfraSynth.Unicode.CaseFold
import InfraSynth.Unicode.Property
import InfraSynth.Unicode.Classes

/-!
# Sets of characters in patterns

The sets that a pattern can name: ranges, the digits, spaces and word characters
of every script, the characters with a property, and what can be built from
them.  `contains` says which characters belong to a set, and `ranges` lists their
code points.
-/

namespace InfraSynth

/-- A set of characters. -/
inductive CharSet
  | empty
  /-- All characters between two, both included. -/
  | range (low high : Char)
  | digit
  | space
  | word
  | property (property : Unicode.Property)
  /-- What differs in case only from a character of a set. -/
  | folded (set : CharSet)
  | union (first second : CharSet)
  | inter (first second : CharSet)
  | complement (set : CharSet)
  deriving DecidableEq, Repr

namespace CharSet

/-- Whether a character belongs to a set. -/
def contains : CharSet → Char → Bool
  | empty, _ => false
  | range low high, c => low ≤ c && c ≤ high
  | digit, c => Unicode.isDigit c
  | space, c => Unicode.isSpace c
  | word, c => Unicode.isWord c
  | property p, c => p.holds c
  | folded set, c => (Unicode.sameFoldChars c).any set.contains
  | union first second, c => first.contains c || second.contains c
  | inter first second, c => first.contains c && second.contains c
  | complement set, c => !set.contains c

/-- The set of one character. -/
def single (c : Char) : CharSet :=
  range c c

/-- The characters of the first set that are not in the second. -/
def diff (first second : CharSet) : CharSet :=
  inter first (complement second)

/-- The characters of exactly one of two sets. -/
def symmetricDiff (first second : CharSet) : CharSet :=
  union (diff first second) (diff second first)

/-- Every character. -/
def all : CharSet :=
  complement empty

/-- The union of several sets. -/
def unions (sets : List CharSet) : CharSet :=
  sets.foldr union empty

/-- The ASCII small letters. -/
def lower : CharSet := range 'a' 'z'

/-- The ASCII capital letters. -/
def upper : CharSet := range 'A' 'Z'

/-- The ASCII digits. -/
def asciiDigit : CharSet := range '0' '9'

/-- The ASCII letters. -/
def letter : CharSet := union lower upper

/-- The ASCII letters and digits. -/
def alphanumeric : CharSet := union letter asciiDigit

/-- The characters of ASCII. -/
def ascii : CharSet := range '\x00' '\x7f'

/-- The characters of a text. -/
def ofText (text : String) : CharSet :=
  unions (text.toList.map single)

/-! ## Code points -/

/-- The code points that differ in case only from one of a list of ranges. -/
def foldedRanges (ranges : Unicode.Ranges) : Unicode.Ranges :=
  let moved := Unicode.foldRanges.flatMap fun range =>
    (List.range ((range.high - range.low) / range.step + 1)).flatMap fun n =>
      let source := range.low + n * range.step
      let same := Unicode.sameFold source
      if same.any fun c => ranges.any fun (low, high) => low ≤ c && c ≤ high then same else []
  ranges.union (.unions (moved.map fun c => [(c, c)]))

/-- The code points of a set. -/
def ranges : CharSet → Unicode.Ranges
  | empty => []
  | range low high => if low ≤ high then [(low.toNat, high.toNat)] else []
  | digit => Unicode.digitRanges
  | space => Unicode.spaceRanges
  | word => Unicode.wordRanges
  | property p => p.ranges
  | folded set => foldedRanges set.ranges
  | union first second => first.ranges.union second.ranges
  | inter first second => first.ranges.inter second.ranges
  | complement set => set.ranges.complement

end CharSet

end InfraSynth

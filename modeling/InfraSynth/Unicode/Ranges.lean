/-!
# Sets of characters given by ranges

A Unicode property is a long list of ranges of code points.  This module says what it
means for a character to belong to such a list, puts lists together and finds them by
name; the lists themselves are in the modules named for their properties.

The ranges of a list come in order and do not touch each other.  What is put
together here from such lists is such a list again.
-/

namespace InfraSynth.Unicode

/-- Ranges of code points, both ends included. -/
abbrev Ranges := List (Nat × Nat)

/-- Whether a character's code point lies in one of the ranges. -/
def Ranges.contains (ranges : Ranges) (c : Char) : Bool :=
  ranges.any fun (low, high) => low ≤ c.toNat && c.toNat ≤ high

theorem Ranges.contains_iff {ranges : Ranges} {c : Char} :
    ranges.contains c = true ↔
      ∃ range ∈ ranges, range.1 ≤ c.toNat ∧ c.toNat ≤ range.2 := by
  simp [Ranges.contains, List.any_eq_true, Prod.exists]

/-- The greatest code point. -/
def lastCodePoint : Nat := 0x10FFFF

namespace Ranges

/-- Every code point. -/
def full : Ranges := [(0, lastCodePoint)]

/-- Ranges in order, with those that touch made into one. -/
def joined : Ranges → Ranges
  | (low, high) :: (next, last) :: rest =>
    if next ≤ high + 1 then joined ((low, max high last) :: rest)
    else (low, high) :: joined ((next, last) :: rest)
  | ranges => ranges
termination_by ranges => ranges.length

/-- The code points of either list. -/
def union (first second : Ranges) : Ranges :=
  joined (first.merge second fun a b => a.1 ≤ b.1)

/-- The code points of several lists. -/
def unions (lists : List Ranges) : Ranges :=
  lists.foldr union []

/-- The code points from a number on that are not in the ranges. -/
def gapsFrom (start : Nat) : Ranges → Ranges
  | [] => if start ≤ lastCodePoint then [(start, lastCodePoint)] else []
  | (low, high) :: rest =>
    if start < low then (start, low - 1) :: gapsFrom (high + 1) rest
    else gapsFrom (high + 1) rest

/-- The code points that are not in the ranges. -/
def complement (ranges : Ranges) : Ranges :=
  gapsFrom 0 ranges

/-- The code points of both lists. -/
def inter (first second : Ranges) : Ranges :=
  (first.complement.union second.complement).complement

/-- The code points of the first list that are not in the second. -/
def diff (first second : Ranges) : Ranges :=
  (first.complement.union second).complement

end Ranges

/-!
## Sets of characters with names

A class of characters goes by several names: a short one, one in full, and
sometimes others.  Names are compared without regard to case, and to spaces,
hyphens and low lines, so a table holds them without these.
-/

/-- Characters and the names that they go by. -/
structure NamedRanges where
  names : List String
  ranges : Ranges

/-- Whether a name is one of those that the characters go by. -/
def NamedRanges.hasName (set : NamedRanges) (name : String) : Bool :=
  set.names.contains name

/-- The characters that go by a name. -/
def NamedRanges.find? (sets : List NamedRanges) (name : String) : Option NamedRanges :=
  sets.find? (·.hasName name)

/-! ### Names as they are written -/

/-- What counts of a name: its ASCII characters as small letters, without
separators. -/
def plainName (name : List Char) : List Char :=
  (name.filter fun c => c.toNat < 0x80 && !" _-".toList.contains c).map (·.toLower)

/-- What counts of a name, which may begin with `is`.  Where that leaves a single
`c`, it belongs to the name. -/
def looseName (name : String) : String :=
  let chars := name.toList
  String.ofList <|
    if (chars.take 2).map (·.toLower) = ['i', 's'] then
      let rest := plainName (chars.drop 2)
      if rest = ['c'] then ['i', 's', 'c'] else rest
    else plainName chars

end InfraSynth.Unicode

import InfraSynth.Pattern.Basic

/-!
# The size of a pattern

A pattern is turned down if a machine that matches it would take up too much room.
`Extent` says how much that is, for a machine that reads a text forwards and for
one that reads it backwards, counted in the bytes of an encoded text.

## Strategy

A machine consists of states of equal size, and of lists of where they lead.  A
class of characters is read byte by byte: each of its ranges is cut into ranges of
encodings that differ in single bytes only (`byteRanges`), and the states for the
first bytes of neighbouring ranges are shared.
-/

namespace InfraSynth.Pattern

/-! ## Ranges of bytes -/

/-- A range of bytes. -/
abbrev ByteRange := Nat × Nat

/-- The bytes that encode a code point. -/
def encoded (codePoint : Nat) : List Nat :=
  (String.singleton (Char.ofNat codePoint)).toUTF8.toList.map (·.toNat)

/-- Where a range of code points has to be cut because their encodings differ in
length. -/
def lengthCut? (low high : Nat) : Option Nat :=
  [0x7f, 0x7ff, 0xffff].find? fun last => low ≤ last && last < high

/-- Where a range of code points has to be cut because some bytes cannot vary
independently; `size` is the number of code points that differ in the last bytes
only. -/
def blockCut? (low high size : Nat) : Option Nat :=
  if low / size = high / size then none
  else if low % size ≠ 0 then some (low / size * size + size - 1)
  else if high % size ≠ size - 1 then some (high / size * size - 1)
  else none

/-- Where a range of code points has to be cut. -/
def cut? (low high : Nat) : Option Nat :=
  (lengthCut? low high).or <|
    if high ≤ 0x7f then none
    else [0x40, 0x1000, 0x40000].findSome? (blockCut? low high)

/-- The ranges of bytes that encode a range of code points; the number bounds how
often it is cut. -/
def byteRanges : Nat → Nat → Nat → List (List ByteRange)
  | 0, _, _ => []
  | fuel + 1, low, high =>
    match cut? low high with
    | some last => byteRanges fuel low last ++ byteRanges fuel (last + 1) high
    | none => [(encoded low).zip (encoded high)]

/-- The ranges of bytes that encode the characters of a list of ranges. -/
def encodings (ranges : Unicode.Ranges) : List (List ByteRange) :=
  (ranges.diff [(0xd800, 0xdfff)]).flatMap fun (low, high) => byteRanges 64 low high

/-- How many ranges at the front two encodings have in common. -/
def shared : List ByteRange → List ByteRange → Nat
  | a :: as, b :: bs => if a = b then shared as bs + 1 else 0
  | _, _ => 0

/-- The ranges of encodings of which the first ones are shared with the encoding
before. -/
def steps (before : List ByteRange) : List (List ByteRange) → Nat
  | [] => 0
  | encoding :: rest => encoding.length - shared before encoding + steps encoding rest

/-- The same without the last range of each encoding. -/
def branches (encodings : List (List ByteRange)) : Nat :=
  steps [] (encodings.map (·.dropLast))

/-! ## Extents -/

/-- The size of a state. -/
def stateSize : Nat := 32

/-- The size of a range of bytes that leads to a state. -/
def stepSize : Nat := 8

/-- The size of a reference to a state. -/
def linkSize : Nat := 4

/-- The greatest size that is allowed. -/
def maxSize : Nat := 10 * Nat.pow 2 20

/-- How much room a pattern takes. -/
structure Extent where
  forward : Nat
  backward : Nat
  /-- The characters that the pattern matches, if it matches single ones. -/
  single : Option CharSet
  /-- Whether the pattern may match the empty text. -/
  mayBeEmpty : Bool
  /-- Whether the pattern matches nothing but the empty text. -/
  isEmpty : Bool

namespace Extent

/-- An extent that is the same in both directions. -/
def both (size : Nat) : Extent :=
  ⟨size, size, none, false, false⟩

/-- Nothing is written. -/
def empty : Extent :=
  { both stateSize with mayBeEmpty := true, isEmpty := true }

/-- Characters, given by their code points.  A single one needs no choice, and
those of ASCII differ in one byte. -/
def ofRanges (ranges : Unicode.Ranges) : Extent :=
  let encodings := encodings ranges
  let all := steps [] encodings
  if ranges.isEmpty then both stateSize
  else if ranges.all (fun (low, high) => low = high) ∧ ranges.length = 1 then
    both (stateSize * all)
  else if ranges.all fun (_, high) => high ≤ 0x7f then
    both (2 * stateSize + stepSize * ranges.length)
  else
    let forward := stateSize * (2 + branches encodings) + stepSize * all
    let backward := stateSize * (2 + all) + linkSize * encodings.length
    { both backward with forward }

/-- A set of characters. -/
def ofSet (chars : CharSet) : Extent :=
  { ofRanges chars.ranges with single := some chars }

/-- One pattern after another. -/
def append (first second : Extent) : Extent :=
  ⟨first.forward + second.forward, first.backward + second.backward, none,
    first.mayBeEmpty && second.mayBeEmpty, first.isEmpty && second.isEmpty⟩

/-- Several patterns in a row. -/
def sequence : List Extent → Extent
  | [] => empty
  | [only] => only
  | extents => extents.foldr append { empty with forward := 0, backward := 0 }

/-- One of several patterns. -/
def oneOf : List Extent → Extent
  | [only] => only
  | extents =>
    match extents.mapM (·.single) with
    | some sets => ofSet (.unions sets)
    | none =>
      let around := 2 * stateSize + linkSize * extents.length
      let sum := extents.foldr append empty
      ⟨sum.forward - stateSize + around, sum.backward - stateSize + around, none,
        extents.any (·.mayBeEmpty), extents.all (·.isEmpty)⟩

/-- A size so many times. -/
def times (count : Nat) (extent : Extent) : Extent :=
  { extent with forward := count * extent.forward, backward := count * extent.backward }

/-- Room for more states and references. -/
def grow (states links : Nat) (extent : Extent) : Extent :=
  let more := states * stateSize + links * linkSize
  { extent with forward := extent.forward + more, backward := extent.backward + more }

/-- A repeated pattern.  What matches nothing but the empty text need not be
repeated. -/
def repeated (extent : Extent) (least : Nat) (most : Option Nat) : Extent :=
  let least := if extent.isEmpty then min least 1 else least
  let most := if extent.isEmpty then some (most.elim 1 (min · 1)) else most
  let result := match least, most with
    | _, some 0 => empty
    | 1, some 1 => extent
    | 0, some 1 => extent.grow 2 2
    | 0, none => if extent.mayBeEmpty then extent.grow 3 4 else extent.grow 1 2
    | least, none => (extent.times least).grow 1 2
    | 0, some most => ((extent.grow 1 2).times most).grow 2 0
    | least, some most =>
      if most ≤ least then extent.times least
      else
        let more := (extent.grow 1 2).times (most - least)
        (append (extent.times least) more).grow 1 0
  { result with
    single := if least = 1 ∧ most = some 1 then extent.single else none
    mayBeEmpty := extent.mayBeEmpty || least = 0
    isEmpty := extent.isEmpty || most = some 0 }

/-- A group, whose place in the text is remembered when it is read forwards. -/
def captured (extent : Extent) : Extent :=
  { extent with forward := extent.forward + 2 * stateSize, single := none }

/-- Whether the whole of a pattern is small enough, with a state for its end, and
those that let it begin anywhere. -/
def fits (extent : Extent) : Bool :=
  let whole := extent.captured.grow 4 4
  max whole.forward whole.backward ≤ maxSize

end Extent

end InfraSynth.Pattern

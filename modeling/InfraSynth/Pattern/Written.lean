import InfraSynth.Pattern.Bracketed
import InfraSynth.Pattern.Size

/-!
# Patterns given as text

`Pattern.ofText?` reads the usual way of writing regular expressions: literal
characters, classes, groups, alternatives, repetitions, and assertions, under
flags that may change within the pattern.  A text that is no pattern has no value,
and neither has one that is nested too deep or takes up too much room.

## Strategy

One pass over the text keeps a stack of open groups.  Each group holds the
alternatives that are complete and the items of the one that is being read, the
last item first, so that a repetition applies to the head of a list.
-/

namespace InfraSynth.Pattern

open Text (isAsciiDigit digits?)

/-! ## Items -/

/-- A part of a pattern. -/
structure Item where
  pattern : Pattern
  depth : Nat
  extent : Extent
  /-- Whether the part is a pattern of its own, which can be repeated. -/
  stands : Bool

namespace Item

/-- Nothing is written. -/
def empty : Item :=
  ⟨epsilon, 0, .empty, true⟩

/-- Flags, which stand for nothing. -/
def flags : Item :=
  { empty with stands := false }

/-- A set of characters. -/
def ofSet (chars : CharSet) (depth : Nat) : Item :=
  ⟨Pattern.set chars, depth, .ofSet chars, true⟩

/-- An assertion. -/
def ofAssertion (claim : Assertion) : Item :=
  ⟨Pattern.assertion claim, 0, .empty, true⟩

/-- A character. -/
def ofChar (flags : Flags) (c : Char) : Item :=
  let folds := flags.has .allScripts || c.toNat < 0x80
  ofSet (if folds then flags.fold (.single c) else .single c) 0

/-- What a backslash stands for. -/
def ofEscape (flags : Flags) : Escape → Item
  | .char c => ofChar flags c
  | .set chars => ofSet chars 0
  | .assertion claim => ofAssertion claim

/-- The depth of several items together. -/
def depthOf (items : List Item) : Nat :=
  let deepest := items.foldr (fun item depth => max item.depth depth) 0
  if items.length ≤ 1 then deepest else deepest + 1

/-- Several items in a row. -/
def row (items : List Item) : Item :=
  ⟨sequence (items.map (·.pattern)), depthOf items,
    .sequence ((items.filter (·.stands)).map (·.extent)), true⟩

/-- One of several items. -/
def choice (items : List Item) : Item :=
  ⟨oneOf (items.map (·.pattern)), depthOf items, .oneOf (items.map (·.extent)), true⟩

/-- A repeated item, if it can be repeated. -/
def repeated? (item : Item) (least : Nat) (most : Option Nat) : Option Item :=
  if !item.stands then none
  else some ⟨repeated item.pattern least most, item.depth + 1,
    item.extent.repeated least most, true⟩

/-- A group. -/
def grouped (item : Item) (captured : Bool) : Item :=
  { item with
    depth := item.depth + 1
    extent := if captured then item.extent.captured else item.extent }

end Item

/-! ## Repetitions -/

/-- Digits, between which there may be what has no meaning; the number bounds
them. -/
private def readDigits (flags : Flags) : Nat → List Char → List Char × List Char
  | 0, text => ([], text)
  | fuel + 1, text =>
    match text with
    | c :: rest =>
      if isAsciiDigit c then
        let (digits, rest) := readDigits flags fuel (flags.skip rest)
        (c :: digits, rest)
      else ([], text)
    | [] => ([], [])

/-- A count with space around it. -/
private def readCount (flags : Flags) (text : List Char) : Option (Nat × List Char) := do
  let text := text.dropWhile Unicode.isSpace
  let (digits, rest) := readDigits flags text.length text
  let count ← digits? (UInt32.size - 1) digits
  some (count, flags.skip (rest.dropWhile Unicode.isSpace))

/-- The bounds of a counted repetition, after its opening brace. -/
private def readBounds (flags : Flags) (text : List Char) :
    Option ((Nat × Option Nat) × List Char) := do
  let (least, rest) ← readCount flags (flags.skip text)
  match rest with
  | '}' :: rest => some ((least, some least), rest)
  | ',' :: rest =>
    match flags.skip rest with
    | '}' :: rest => some ((least, none), rest)
    | rest => do
      let (most, rest) ← readCount flags rest
      match rest with
      | '}' :: rest => if least ≤ most then some ((least, some most), rest) else none
      | _ => none
  | _ => none

/-- The bounds that a repetition sign stands for. -/
private def readRepetition (flags : Flags) : List Char → Option ((Nat × Option Nat) × List Char)
  | '*' :: rest => some ((0, none), rest)
  | '+' :: rest => some ((1, none), rest)
  | '?' :: rest => some ((0, some 1), rest)
  | '{' :: rest => do
    let (bounds, rest) ← readBounds flags rest
    some (bounds, flags.skip rest)
  | _ => none

/-- The rest after a sign that a repetition prefers to be short. -/
private def afterShort : List Char → List Char
  | '?' :: rest => rest
  | rest => rest

/-! ## Groups -/

/-- A group that is being read. -/
structure Group where
  /-- The alternatives that are complete, the last one first. -/
  alternatives : List Item
  /-- The items of the current alternative, the last one first. -/
  items : List Item
  /-- Whether the place of the group is remembered. -/
  captured : Bool
  /-- The flags around the group. -/
  outside : Flags

namespace Group

/-- A group of which nothing has been read. -/
def start (captured : Bool) (outside : Flags) : Group :=
  ⟨[], [], captured, outside⟩

/-- Add an item. -/
def push (group : Group) (item : Item) : Group :=
  { group with items := item :: group.items }

/-- The current alternative. -/
def current (group : Group) : Item :=
  .row group.items.reverse

/-- Complete the current alternative. -/
def divide (group : Group) : Group :=
  { group with alternatives := group.current :: group.alternatives, items := [] }

/-- What the group holds. -/
def content (group : Group) : Item :=
  .choice group.divide.alternatives.reverse

/-- Repeat the last item. -/
def repeatLast (group : Group) (least : Nat) (most : Option Nat) : Option Group :=
  match group.items with
  | [] => none
  | item :: items => do some { group with items := (← item.repeated? least most) :: items }

end Group

/-- Whether a character may stand in the name of a group, or begin it. -/
private def isNameChar (first : Bool) (c : Char) : Bool :=
  c = '_' || Unicode.Trait.alphabetic.contains c ||
    (!first && (c = '.' || c = '[' || c = ']' || Unicode.Category.number.contains c))

/-- The name of a group, up to its closing sign. -/
private def readName? (text : List Char) : Option (String × List Char) :=
  let name := text.takeWhile (· ≠ '>')
  match text.dropWhile (· ≠ '>') with
  | [] => none
  | _ :: rest =>
    if (name.take 1).any (isNameChar true ·) ∧ (name.drop 1).all (isNameChar false ·) = true then
      some (String.ofList name, rest)
    else none

/-- What a parenthesis begins. -/
inductive Opening
  | group (captured : Bool) (name : Option String) (inside : Flags)
  | flags (changed : Flags)

/-- What a parenthesis begins, given what comes after it. -/
private def readOpening? (flags : Flags) (text : List Char) : Option (Opening × List Char) :=
  match flags.skip text with
  | '?' :: 'P' :: '<' :: rest | '?' :: '<' :: rest => do
    let (name, rest) ← readName? rest
    some (.group true (some name) flags, rest)
  | '?' :: rest => do
    let ((changes, ending), rest) ← readChanges? false [] rest
    let changed := changes.foldl Flags.change flags
    match ending with
    | .rest => some (.flags changed, rest)
    | .group => some (.group false none changed, rest)
  | rest => some (.group true none flags, rest)

/-! ## Patterns -/

/-- What has been read of a pattern. -/
structure Reading where
  flags : Flags
  /-- The innermost group. -/
  group : Group
  /-- The groups around it, the innermost one first. -/
  outer : List Group
  /-- The names of groups. -/
  names : List String

namespace Reading

/-- Nothing has been read. -/
def start : Reading :=
  ⟨.start, .start false .start, [], []⟩

/-- Add an item. -/
def push (reading : Reading) (item : Item) : Reading :=
  { reading with group := reading.group.push item }

/-- What a parenthesis begins; no two groups have one name. -/
def open? (reading : Reading) : Opening → Option Reading
  | .flags changed => some { reading.push .flags with flags := changed }
  | .group captured name inside =>
    if name.any (reading.names.contains ·) then none
    else some {
      flags := inside
      group := .start captured reading.flags
      outer := reading.group :: reading.outer
      names := name.toList ++ reading.names }

/-- A closing parenthesis. -/
def close? (reading : Reading) : Option Reading :=
  match reading.outer with
  | [] => none
  | next :: outer =>
    let item := reading.group.content.grouped reading.group.captured
    some { reading with flags := reading.group.outside, group := next.push item, outer }

/-- Take the next part from the front of a text. -/
private def step? (reading : Reading) (c : Char) (rest : List Char) :
    Option (Reading × List Char) :=
  let flags := reading.flags
  match c with
  | '(' => do
    let (opening, rest) ← readOpening? flags rest
    some (← reading.open? opening, rest)
  | ')' => do some (← reading.close?, rest)
  | '|' => some ({ reading with group := reading.group.divide }, rest)
  | '[' => do
    let ((chars, depth), rest) ← readClass flags rest
    some (reading.push (.ofSet chars depth), rest)
  | '\\' => do
    let (escape, rest) ← readEscape flags rest
    some (reading.push (.ofEscape flags escape), rest)
  | '.' => do some (reading.push (.ofSet (← flags.point?) 0), rest)
  | '^' =>
    let claim := if flags.has .eachLine then .lineStart flags.lineEnds else .textStart
    some (reading.push (.ofAssertion claim), rest)
  | '$' =>
    let claim := if flags.has .eachLine then .lineEnd flags.lineEnds else .textEnd
    some (reading.push (.ofAssertion claim), rest)
  | '*' | '+' | '?' | '{' => do
    let ((least, most), rest) ← readRepetition flags (c :: rest)
    some ({ reading with group := ← reading.group.repeatLast least most }, afterShort rest)
  | c => some (reading.push (.ofChar flags c), rest)

/-- What a text stands for, after what has been read; the number bounds the
steps. -/
private def readAll? : Nat → Reading → List Char → Option Item
  | 0, _, _ => none
  | fuel + 1, reading, text =>
    match reading.flags.skip text with
    | [] => if reading.outer.isEmpty then some reading.group.content else none
    | c :: rest => do
      let (reading, rest) ← reading.step? c rest
      readAll? fuel reading rest

end Reading

/-- How deep a pattern may be nested. -/
def maxDepth : Nat := 250

/-- The pattern that a text stands for. -/
def ofText? (text : String) : Option Pattern := do
  let item ← Reading.start.readAll? (text.length + 1) text.toList
  if item.depth ≤ maxDepth ∧ item.extent.fits = true then some item.pattern else none

end InfraSynth.Pattern

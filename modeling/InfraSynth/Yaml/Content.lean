import InfraSynth.Collection.Entries
import InfraSynth.Json.Basic
import InfraSynth.Text.Numeral
import InfraSynth.Yaml.Tree

/-!
# Contents

What a tree says once the texts of its scalars are understood.  A plain scalar
may be null, a flag or a number; every other scalar is a text, unless its tag says
that it is one of these.

## Main definitions

* `Scalar.atom?` is what a scalar says.
* `Content` is what a tree says, where keys may be anything.
* `Tree.toJson?` is the JSON value of a tree, in which keys are the texts of
  scalars as they are written.
-/

namespace InfraSynth.Yaml

/-- What a scalar says. -/
inductive Atom
  | null
  | flag (value : Bool)
  | natural (value : Nat)
  /-- An integer with a minus sign. -/
  | integer (value : Int)
  /-- A number that need not be finite. -/
  | float (value : Option Binary64)
  | text (value : String)
  deriving DecidableEq

/-! ## The forms of plain scalars -/

/-- Whether a text is a form of null. -/
def isNull (text : String) : Bool :=
  ["null", "Null", "NULL", "~"].contains text

/-- The flag that a text stands for. -/
def flag? (text : String) : Option Bool :=
  if ["true", "True", "TRUE"].contains text then some true
  else if ["false", "False", "FALSE"].contains text then some false
  else none

/-- The rest after a sign, and the characters that may be a sign. -/
def dropSign (signs : List Char) : List Char → List Char
  | c :: rest => if signs.contains c then rest else c :: rest
  | [] => []

/-- Whether a character is a sign. -/
def isSign (c : Char) : Bool :=
  c = '+' || c = '-'

/-- Whether a numeral begins with a zero that says nothing, which makes it a
text. -/
def hasIdleZero (text : List Char) : Bool :=
  match dropSign ['+', '-'] text with
  | '0' :: c :: rest => (c :: rest).all Text.isAsciiDigit
  | _ => false

/-- The value of digits after a base has been stated. -/
def basedMagnitude? : List Char → Option Nat
  | '0' :: 'x' :: digits => Text.inBase? 16 digits
  | '0' :: 'o' :: digits => Text.inBase? 8 digits
  | '0' :: 'b' :: digits => Text.inBase? 2 digits
  | _ => none

/-- The value of decimal digits. -/
def decimalMagnitude? (text : List Char) : Option Nat :=
  if hasIdleZero text then none else Text.inBase? 10 text

/-- The value of a numeral without sign. -/
def magnitude? (text : List Char) : Option Nat :=
  (basedMagnitude? text).or (decimalMagnitude? text)

/-- The sign and the magnitude of an integer. -/
def integer? : List Char → Option (Bool × Nat)
  | '-' :: text => (true, ·) <$> magnitude? text
  | text => (false, ·) <$> magnitude? (dropSign ['+'] text)

/-- The integer with a sign and a magnitude, if it fits into 64 bits. -/
def atomOfInteger? (negative : Bool) (magnitude : Nat) : Option Atom :=
  if !negative then if magnitude < UInt64.size then some (.natural magnitude) else none
  else if magnitude ≤ Nat.pow 2 63 then some (.integer (-magnitude))
  else none

/-- Whether an integer that does not fit into 64 bits is still understood as one,
and is therefore out of range and not a number of another kind. -/
def isWideInteger (negative : Bool) (magnitude : Nat) : Bool :=
  if negative then magnitude ≤ Nat.pow 2 127 else magnitude < Nat.pow 2 128

/-- The exponent after the digits of a numeral. -/
def decimalExponent? : List Char → Option Int
  | [] => some 0
  | 'e' :: text | 'E' :: text => do
    let magnitude ← Text.inBase? 10 (dropSign ['+', '-'] text)
    some (if text.head? = some '-' then -magnitude else magnitude)
  | _ => none

/-- A finite decimal number without sign. -/
def decimal? (negative : Bool) (text : List Char) : Option Binary64 := do
  let whole := text.takeWhile Text.isAsciiDigit
  let rest := text.dropWhile Text.isAsciiDigit
  let (fraction, rest) := match rest with
    | '.' :: rest => (rest.takeWhile Text.isAsciiDigit, rest.dropWhile Text.isAsciiDigit)
    | rest => ([], rest)
  let exponent ← decimalExponent? rest
  let digits := (whole ++ fraction).dropWhile (· = '0')
  if whole.isEmpty ∧ fraction.isEmpty then none
  let scale := exponent - fraction.length
  let result :=
    if digits.isEmpty ∨ digits.length + scale < -400 then ⟨negative, 0⟩
    else Binary64.ofDecimal negative (Text.digitsValue digits) (min scale 400)
  if result.IsFinite then some result else none

/-- The number that a text stands for; infinities and what is no number have no
value. -/
def float? (text : String) : Option (Option Binary64) :=
  let chars := text.toList
  let positive := dropSign ['+'] chars
  if positive.length < chars.length ∧ positive.head?.any isSign = true then none
  else if [".inf", ".Inf", ".INF"].contains (String.ofList positive) then some none
  else if ["-.inf", "-.Inf", "-.INF", ".nan", ".NaN", ".NAN"].contains text then some none
  else match positive with
    | '-' :: rest => some <$> decimal? true rest
    | rest => some <$> decimal? false rest

/-! ## Scalars -/

/-- What a plain scalar says. -/
def plainAtom? (text : String) : Option Atom :=
  if text.isEmpty ∨ isNull text = true then some .null
  else match flag? text with
  | some value => some (.flag value)
  | none =>
    let asNumber := if hasIdleZero text.toList then none else float? text
    let other := some (asNumber.elim (.text text) .float)
    match integer? text.toList with
    | some (negative, magnitude) =>
      match atomOfInteger? negative magnitude with
      | some atom => some atom
      | none => if isWideInteger negative magnitude then none else other
    | none => other

/-- Whether a tag belongs to the text it stands in. -/
def Tag.isLocal (tag : Tag) : Bool :=
  tag.head? = Tag.mark.head?

/-- Whether there is a tag that only the reader of a text can know about: it
belongs to the text, and its name can be read.  The mark alone is such a tag, with the
empty name, so `! 5` and `! "5"` are turned down as `! [5]` and `!size 5` are. -/
def hasLocalName (tag : Option Tag) : Bool :=
  tag.any fun tag => tag.isLocal && (String.fromUTF8? ⟨(tag.drop 1).toArray⟩).isSome

/-- What a scalar says, unless it cannot say what its tag does. -/
def Scalar.atom? (scalar : Scalar) : Option Atom :=
  match scalar.tag with
  | none => if scalar.style = .plain then plainAtom? scalar.text else some (.text scalar.text)
  | some tag =>
    if hasLocalName tag then none
    else if tag.isLocal ∧ scalar.style = .plain then plainAtom? scalar.text
    else if tag = commonTag "bool" then .flag <$> flag? scalar.text
    else if tag = commonTag "int" then do
      let (negative, magnitude) ← integer? scalar.text.toList
      atomOfInteger? negative magnitude
    else if tag = commonTag "float" then .float <$> float? scalar.text
    else if tag = commonTag "null" then if isNull scalar.text then some .null else none
    else some (.text scalar.text)

/-- The JSON value of an atom; a number that is not finite has none. -/
def Atom.toJson : Atom → Json
  | .null | .float none => .null
  | .flag value => .bool value
  | .natural value => .nat value
  | .integer value => .int value
  | .float (some value) => .float value
  | .text value => .string value

/-! ## Trees -/

/-- What a tree says. -/
inductive Content
  | atom (atom : Atom)
  | list (items : List Content)
  | map (entries : List (Content × Content))

mutual

/-- What a tree says. -/
def Tree.content? : Tree → Option Content
  | .scalar leaf => .atom <$> leaf.atom?
  | .sequence tag items => if hasLocalName tag then none else .list <$> itemContents? items
  | .mapping tag entries => if hasLocalName tag then none else .map <$> entryContents? entries

/-- What items say. -/
def itemContents? : List Tree → Option (List Content)
  | [] => some []
  | item :: rest => do
    let item ← Tree.content? item
    some (item :: (← itemContents? rest))

/-- What entries say. -/
def entryContents? : List (Tree × Tree) → Option (List (Content × Content))
  | [] => some []
  | (key, value) :: rest => do
    let key ← Tree.content? key
    let value ← Tree.content? value
    some ((key, value) :: (← entryContents? rest))

end

/-- The text of a scalar as it is written. -/
def Tree.text? : Tree → Option String
  | .scalar leaf => some leaf.text
  | _ => none

mutual

/-- The JSON value of a tree. -/
def Tree.toJson? : Tree → Option Json
  | .scalar leaf => Atom.toJson <$> leaf.atom?
  | .sequence tag items => if hasLocalName tag then none else .array <$> itemsJson? items
  | .mapping tag entries => if hasLocalName tag then none else .object <$> entriesJson? [] entries

/-- The JSON values of items. -/
def itemsJson? : List Tree → Option (List Json)
  | [] => some []
  | item :: rest => do
    let item ← Tree.toJson? item
    some (item :: (← itemsJson? rest))

/-- The entries of a JSON object after those already collected. -/
def entriesJson? (collected : Entries Json) : List (Tree × Tree) → Option (Entries Json)
  | [] => some collected
  | (key, value) :: rest => do
    let value ← Tree.toJson? value
    entriesJson? (Entries.insert collected (← key.text?) value) rest

end

/-- The text that a content is. -/
def Content.text? : Content → Option String
  | .atom (.text value) => some value
  | _ => none

mutual

/-- The JSON value of a content, whose keys have to be texts. -/
def Content.toJson? : Content → Option Json
  | .atom atom => some atom.toJson
  | .list items => .array <$> contentItemsJson? items
  | .map entries => .object <$> contentEntriesJson? [] entries

/-- The JSON values of items. -/
def contentItemsJson? : List Content → Option (List Json)
  | [] => some []
  | item :: rest => do
    let item ← Content.toJson? item
    some (item :: (← contentItemsJson? rest))

/-- The entries of a JSON object after those already collected. -/
def contentEntriesJson? (collected : Entries Json) :
    List (Content × Content) → Option (Entries Json)
  | [] => some collected
  | (key, value) :: rest => do
    let value ← Content.toJson? value
    contentEntriesJson? (Entries.insert collected (← key.text?) value) rest

end

end InfraSynth.Yaml

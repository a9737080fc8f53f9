import InfraSynth.Text.Numeral
import InfraSynth.Yaml.Spot

/-!
# Tags

A tag says of what kind a value is.  It is written in full between angle
brackets, or as a handle and what comes after it; a handle stands for the
beginning of tags, and a document may say which.

Bytes of a tag may be written in hexadecimal.  They need not encode a text, so a
tag is a list of bytes.  A byte of value zero ends what it stands in.

## Main definitions

* `TagName` is a tag as it is written, and `tagName?` reads it.
* `TagHandles.resolve?` gives the tag that is meant.
-/

namespace InfraSynth.Yaml

/-- A tag, as the bytes of its text. -/
abbrev Tag := List UInt8

/-- The tag with a given text. -/
def Tag.ofText (text : String) : Tag :=
  text.toUTF8.toList

/-- The tag up to its first byte of value zero. -/
def Tag.untilZero (tag : Tag) : Tag :=
  tag.takeWhile (· ≠ 0)

/-- The tag that is an exclamation mark alone.  It is a tag like any other: a scalar keeps
it, in whatever style it is written. -/
def Tag.mark : Tag :=
  ofText "!"

/-- A tag as it is written. -/
structure TagName where
  /-- The handle; a tag in full has none. -/
  handle : Option String
  suffix : Tag
  deriving DecidableEq

/-! ## Reading tags -/

/-- Whether a character may stand in a tag; `listed` allows those that separate
items between brackets. -/
def isTagChar (listed : Bool) (c : Char) : Bool :=
  isNamed c || ";/?:@&=+$.%!~*'()".toList.contains c || (listed && ",[]".toList.contains c)

/-- How many bytes the encoding of a character has, given its first byte. -/
def encodedLength? (byte : Nat) : Option Nat :=
  if byte < 0x80 then some 1
  else if 0xc0 ≤ byte ∧ byte < 0xe0 then some 2
  else if 0xe0 ≤ byte ∧ byte < 0xf0 then some 3
  else if 0xf0 ≤ byte ∧ byte < 0xf8 then some 4
  else none

/-- Bytes that are each written as a percent sign and two digits. -/
def encodedBytes? : Nat → Reader (List UInt8)
  | 0, text => some ([], text)
  | count + 1, percent :: high :: low :: rest => do
    let byte ← Text.inBase? 16 (chars [high, low])
    let (bytes, rest) ← encodedBytes? count rest
    if percent.char = '%' then some (.ofNat byte :: bytes, rest) else none
  | _ + 1, _ => none

/-- Whether a byte may come after the first one of a character. -/
def isTrailing (byte : UInt8) : Bool :=
  0x80 ≤ byte && byte < 0xc0

/-- Bytes written in hexadecimal of which the first says how many there are. -/
def encodedChar? : Reader Tag := fun text => do
  let ([first], _) ← encodedBytes? 1 text | none
  let (bytes, rest) ← encodedBytes? (← encodedLength? first.toNat) text
  if (bytes.drop 1).all isTrailing then some (bytes, rest) else none

/-- The rest of a tag; the number bounds its characters. -/
def tagChars? (listed : Bool) : Nat → Reader Tag
  | 0, _ => none
  | _ + 1, [] => some ([], [])
  | fuel + 1, spot :: rest =>
    if spot.char = '%' then do
      let (bytes, rest) ← encodedChar? (spot :: rest)
      let (more, rest) ← tagChars? listed fuel rest
      some (bytes ++ more, rest)
    else if isTagChar listed spot.char then do
      let (more, rest) ← tagChars? listed fuel rest
      some (spot.char.toUInt8 :: more, rest)
    else some ([], spot :: rest)

/-- The rest of a tag, which may not be empty. -/
def tagText? (listed : Bool) : Reader Tag := fun text => do
  let (tag, rest) ← tagChars? listed (text.length + 1) text
  if tag.isEmpty then none else some (tag, rest)

/-- A name between exclamation marks, of which the second may be missing. -/
def handle? : Reader (List Char)
  | spot :: rest =>
    if spot.char ≠ '!' then none
    else
      let (name, rest) := span isNamed rest
      if begins (· = '!') rest then some ('!' :: chars name ++ ['!'], rest.drop 1)
      else some ('!' :: chars name, rest)
  | [] => none

/-- A tag, after which there has to be white space, or a comma between
brackets. -/
def tagName? (bracketed : Bool) : Reader TagName := fun text => do
  let (name, rest) ←
    if begins (· = '<') (text.drop 1) then do
      let (suffix, rest) ← tagText? true (text.drop 2)
      if begins (· = '>') rest then some (⟨none, suffix⟩, rest.drop 1) else none
    else do
      let (handle, rest) ← handle? text
      if 1 < handle.length ∧ handle.getLast? = some '!' then do
        let (suffix, rest) ← tagText? false rest
        some ((⟨some (String.ofList handle), suffix⟩ : TagName), rest)
      else do
        let (more, rest) ← tagChars? false (rest.length + 1) rest
        let suffix := Tag.ofText (String.ofList (handle.drop 1)) ++ more
        if suffix.untilZero.isEmpty then some (⟨none, .mark⟩, rest)
        else some (⟨some "!", suffix⟩, rest)
  if atGap rest || (bracketed && begins (· = ',') rest) then some (name, rest) else none

/-! ## Handles -/

/-- Handles and the beginnings of tags that they stand for. -/
abbrev TagHandles := List (String × Tag)

/-- The tag of a common kind. -/
def commonTag (kind : String) : Tag :=
  .ofText ("tag:yaml.org,2002:" ++ kind)

/-- The handles that need not be declared. -/
def TagHandles.default : TagHandles :=
  [("!", .mark), ("!!", commonTag "")]

/-- The tag that is meant, unless its handle stands for nothing. -/
def TagHandles.resolve? (handles : TagHandles) (name : TagName) : Option Tag :=
  match name.handle with
  | none => some name.suffix.untilZero
  | some handle => do some ((← handles.lookup handle).untilZero ++ name.suffix.untilZero)

end InfraSynth.Yaml

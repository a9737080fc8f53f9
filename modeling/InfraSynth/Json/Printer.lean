import InfraSynth.Json.Basic
import InfraSynth.Number.Written

/-!
# JSON as text

`Json.compact` writes a value without spaces.  `Json.pretty` puts each item and
each entry on a line of its own, indented by two spaces a level, and writes
empty containers as `[]` and `{}`.

Both are built on functions that put the text of a value in front of a given
rest, so that the text of a list is the text of its parts in a row.
-/

namespace InfraSynth.Json

/-- A character as it stands inside a JSON string: quotes and backslashes are
escaped, controls below the space are written by name or by number, and all
else stands for itself. -/
def escaped (c : Char) : List Char :=
  if c = '"' then ['\\', '"']
  else if c = '\\' then ['\\', '\\']
  else if c = '\x08' then ['\\', 'b']
  else if c = '\x0c' then ['\\', 'f']
  else if c = '\n' then ['\\', 'n']
  else if c = '\r' then ['\\', 'r']
  else if c = '\t' then ['\\', 't']
  else if c.toNat < 0x20 then
    ['\\', 'u', '0', '0', Nat.digitChar (c.toNat / 16), Nat.digitChar (c.toNat % 16)]
  else [c]

/-- A text between double quotes. -/
def quote (text : String) (tail : List Char) : List Char :=
  '"' :: text.toList.flatMap escaped ++ '"' :: tail

/-- An integer in decimal. -/
def integerChars (value : Int) : List Char :=
  if value < 0 then '-' :: Nat.toDigits 10 value.natAbs else Nat.toDigits 10 value.natAbs

/-- The text of a number. -/
def numberChars : Number → List Char
  | .int value => integerChars value
  | .float value => value.chars

/-! ## Without spaces -/

mutual

/-- A value followed by a rest. -/
def render : Json → List Char → List Char
  | .null, tail => 'n' :: 'u' :: 'l' :: 'l' :: tail
  | .bool true, tail => 't' :: 'r' :: 'u' :: 'e' :: tail
  | .bool false, tail => 'f' :: 'a' :: 'l' :: 's' :: 'e' :: tail
  | .number value, tail => numberChars value ++ tail
  | .string value, tail => quote value tail
  | .array items, tail => '[' :: renderItems true items (']' :: tail)
  | .object entries, tail => '{' :: renderEntries true entries ('}' :: tail)

/-- Items with commas between them; `first` says that none has been written
yet. -/
def renderItems (first : Bool) : List Json → List Char → List Char
  | [], tail => tail
  | item :: rest, tail =>
    let text := render item (renderItems false rest tail)
    if first then text else ',' :: text

/-- Entries with commas between them; `first` says that none has been written
yet. -/
def renderEntries (first : Bool) : List (String × Json) → List Char → List Char
  | [], tail => tail
  | (key, value) :: rest, tail =>
    let text := quote key (':' :: render value (renderEntries false rest tail))
    if first then text else ',' :: text

end

/-- The text of a value without spaces. -/
def compact (value : Json) : String :=
  String.ofList (value.render [])

/-! ## On several lines -/

/-- A line break and the indentation of a level. -/
def newLine (level : Nat) (tail : List Char) : List Char :=
  '\n' :: List.replicate (2 * level) ' ' ++ tail

mutual

/-- A value whose inner lines are indented by one level more than `level`. -/
def layOut (level : Nat) : Json → List Char → List Char
  | .array [], tail => '[' :: ']' :: tail
  | .array items, tail =>
    '[' :: layOutItems (level + 1) true items (newLine level (']' :: tail))
  | .object [], tail => '{' :: '}' :: tail
  | .object entries, tail =>
    '{' :: layOutEntries (level + 1) true entries (newLine level ('}' :: tail))
  | .null, tail => 'n' :: 'u' :: 'l' :: 'l' :: tail
  | .bool true, tail => 't' :: 'r' :: 'u' :: 'e' :: tail
  | .bool false, tail => 'f' :: 'a' :: 'l' :: 's' :: 'e' :: tail
  | .number value, tail => numberChars value ++ tail
  | .string value, tail => quote value tail

/-- Items on lines of their own. -/
def layOutItems (level : Nat) (first : Bool) : List Json → List Char → List Char
  | [], tail => tail
  | item :: rest, tail =>
    let text := newLine level (layOut level item (layOutItems level false rest tail))
    if first then text else ',' :: text

/-- Entries on lines of their own. -/
def layOutEntries (level : Nat) (first : Bool) : List (String × Json) → List Char → List Char
  | [], tail => tail
  | (key, value) :: rest, tail =>
    let text := newLine level (quote key (':' :: ' ' ::
      layOut level value (layOutEntries level false rest tail)))
    if first then text else ',' :: text

end

/-- The text of a value with one item or entry on a line. -/
def pretty (value : Json) : String :=
  String.ofList (value.layOut 0 [])

end InfraSynth.Json

import InfraSynth.Yaml.Scalar
import InfraSynth.Yaml.Tag

/-!
# Tokens

The parts that a YAML text consists of.  Collections between brackets have
tokens for the brackets; those shown by indentation have tokens at their
beginning and end although no character stands there.

A line that begins with a percent sign is a directive.  It says something about
the document that follows: which version of the notation it is written in, or what
a handle of tags stands for.
-/

namespace InfraSynth.Yaml

/-! ## Directives -/

/-- What is said about a document. -/
inductive Directive
  | version
  | handle (handle : String) (start : Tag)
  deriving DecidableEq

/-- A number of at most nine digits. -/
def versionPart? : Reader Nat := fun text =>
  let (digits, rest) := span Text.isAsciiDigit text
  if digits.isEmpty ∨ 9 < digits.length then none
  else some (Text.digitsValue (chars digits), rest)

/-- The version of the notation, which has to be 1.1 or 1.2. -/
def version? : Reader Directive := fun text => do
  let (major, rest) ← versionPart? (skip isBlank text)
  if !begins (· = '.') rest then none
  let (minor, rest) ← versionPart? (rest.drop 1)
  if major = 1 ∧ (minor = 1 ∨ minor = 2) then some (.version, rest) else none

/-- A handle, and the beginning of the tags that it stands for. -/
def tagHandle? : Reader Directive := fun text => do
  let (handle, rest) ← handle? (skip isBlank text)
  if handle ≠ ['!'] ∧ handle.getLast? ≠ some '!' then none
  if !begins isBlank rest then none
  let (start, rest) ← tagText? true (skip isBlank rest)
  if atGap rest then some (.handle (String.ofList handle) start, rest) else none

/-- A directive with the rest of its line, after its percent sign. -/
def directive? : Reader Directive := fun text => do
  let (name, rest) := span isNamed text
  if !atGap rest then none
  let (directive, rest) ←
    if chars name = ['Y', 'A', 'M', 'L'] then version? rest
    else if chars name = ['T', 'A', 'G'] then tagHandle? rest
    else none
  some (directive, ← endLine? rest)

/-! ## Tokens -/

/-- The two kinds of brackets. -/
inductive Bracket
  /-- Around the items of a sequence. -/
  | square
  /-- Around the entries of a mapping. -/
  | curly
  deriving DecidableEq

/-- A part of a text. -/
inductive Token
  | directive (directive : Directive)
  | mark (mark : Mark)
  /-- Indentation shows the beginning of a sequence. -/
  | sequence
  /-- Indentation shows the beginning of a mapping. -/
  | mapping
  /-- Indentation shows the end of a sequence or mapping. -/
  | dedent
  | opening (bracket : Bracket)
  | closing (bracket : Bracket)
  /-- A hyphen before an item. -/
  | item
  /-- A comma between brackets. -/
  | comma
  /-- A key follows. -/
  | key
  /-- The value of a key follows. -/
  | value
  | alias (name : String)
  | anchor (name : String)
  | tag (name : TagName)
  | scalar (style : Style) (text : String)
  deriving DecidableEq

end InfraSynth.Yaml

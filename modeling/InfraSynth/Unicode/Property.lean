import InfraSynth.Unicode.Age
import InfraSynth.Unicode.Break
import InfraSynth.Unicode.ScriptExtension

/-!
# Properties

A property is something that Unicode says of characters, such as their category,
their script, or a trait that they have or lack.  It is named by a value alone if
this is a trait, a category or a script, and otherwise together with what it is a
value of.
-/

namespace InfraSynth.Unicode

/-- What a property is about. -/
inductive Aspect
  | category
  | script
  /-- The scripts that a character is used in. -/
  | usage
  | age
  | graphemeBreak
  | wordBreak
  | sentenceBreak
  | trait
  deriving DecidableEq, Repr

/-- A property, by the name of a value. -/
structure Property where
  aspect : Aspect
  value : String
  deriving DecidableEq, Repr

/-- The characters that have a value of an aspect, if there is one of that name. -/
def Aspect.ranges? (aspect : Aspect) (value : String) : Option Ranges :=
  match aspect with
  | category => (NamedRanges.find? categories value).map (·.ranges)
  | script => (NamedRanges.find? scripts value).map (·.ranges)
  | usage => (NamedRanges.find? scripts value).map usedIn
  | age => presentIn? value
  | graphemeBreak => (NamedRanges.find? graphemeBreaks value).map (·.ranges)
  | wordBreak => (NamedRanges.find? wordBreaks value).map (·.ranges)
  | sentenceBreak => (NamedRanges.find? sentenceBreaks value).map (·.ranges)
  | trait => (NamedRanges.find? traits value).map (·.ranges)

namespace Property

/-- The characters that have a property. -/
def ranges (property : Property) : Ranges :=
  (property.aspect.ranges? property.value).getD []

/-- Whether a character has a property. -/
def holds (property : Property) (c : Char) : Bool :=
  property.ranges.contains c

/-- The property with a value of an aspect, if there is such a value. -/
def ofValue? (aspect : Aspect) (value : String) : Option Property :=
  if (aspect.ranges? value).isSome then some ⟨aspect, value⟩ else none

/-- The property that a single name stands for. -/
def ofName? (name : String) : Option Property :=
  let value := looseName name
  [Aspect.trait, .category, .script].findSome? (ofValue? · value)

/-- The names of the aspects that values are given of. -/
def aspects : List (List String × Aspect) := [
  (["gc", "generalcategory"], .category),
  (["sc", "script"], .script),
  (["scx", "scriptextensions"], .usage),
  (["age"], .age),
  (["gcb", "graphemeclusterbreak"], .graphemeBreak),
  (["wb", "wordbreak"], .wordBreak),
  (["sb", "sentencebreak"], .sentenceBreak)]

/-- The property that the name of an aspect and that of a value stand for. -/
def ofNames? (aspect value : String) : Option Property := do
  let (_, aspect) ← aspects.find? fun (names, _) => names.contains (looseName aspect)
  ofValue? aspect (looseName value)

end Property

end InfraSynth.Unicode

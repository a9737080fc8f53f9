import InfraSynth.Yaml.Tag

/-!
# Scalars

A scalar is a text, written in one of several styles.  Within a text that is not
given line by line, white space around a line end is folded: a single line end
stands for a space, and of several the first is left out.
-/

namespace InfraSynth.Yaml

/-- How a scalar is written. -/
inductive Style
  /-- Without any marks. -/
  | plain
  /-- Between quotes. -/
  | quoted
  /-- Line by line. -/
  | literal
  /-- Line by line, with line ends folded. -/
  | folded
  deriving DecidableEq, Repr

/-- A scalar with its tag. -/
structure Scalar where
  style : Style
  tag : Option Tag
  text : String
  deriving DecidableEq, Repr

/-- The scalar that stands where nothing is written. -/
def Scalar.empty (tag : Option Tag) : Scalar :=
  ⟨.plain, tag, ""⟩

/-- Whether nothing is written. -/
def Scalar.isEmpty (scalar : Scalar) : Bool :=
  scalar.style = .plain && scalar.text.isEmpty

/-- What white space between the words of a text stands for. -/
def fold (gap : List Char) : List Char :=
  match gap.filter isBreak with
  | [] => gap
  | ['\n'] => [' ']
  | '\n' :: more => more
  | breaks => breaks

end InfraSynth.Yaml

import InfraSynth.Text.Affix

/-!
# Interpolations

A value that is known only when the configuration is applied is written as an
expression between `${` and `}`.  Checks of formats let such values pass.
-/

namespace InfraSynth.Interpolation

/-- An expression as an interpolation. -/
def ofExpression (expression : String) : String :=
  String.ofList ('$' :: '{' :: expression.toList ++ ['}'])

/-- A reference to an attribute of a resource. -/
def ofResource (type name output : String) : String :=
  ofExpression s!"{type}.{name}.{output}"

/-- A reference to an input variable. -/
def ofVariable (name : String) : String :=
  ofExpression s!"var.{name}"

/-- Whether a text is an interpolation with an expression in it. -/
def isInterpolation (text : String) : Bool :=
  Text.startsWith text "$\x7b" && Text.endsWith text "\x7d" && 3 < text.length

end InfraSynth.Interpolation

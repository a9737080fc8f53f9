import InfraSynth.Error
import InfraSynth.Pattern.Basic

/-!
# Names

Resources, variables, outputs and templates have names that begin with an ASCII
letter or an underscore and go on with letters, digits, underscores and hyphens.
-/

namespace InfraSynth.Name

/-- The names that are allowed. -/
def pattern : Pattern :=
  .cat (.set (.union .letter (.single '_')))
    (.many (.set (.union .alphanumeric (.ofText "_-"))))

/-- Turn down a name that is not allowed. -/
def check (name : String) : Except Error Unit :=
  if pattern.accepts name then .ok () else .error (.invalidName name)

end InfraSynth.Name

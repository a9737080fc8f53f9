import InfraSynth.Error

/-!
# Results with warnings

Declaring a resource may give warnings whether or not it succeeds.  A
`Logged α` is a result together with the warnings that were given on the way to
it; of two steps in a row the warnings of the first come first.
-/

namespace InfraSynth

/-- A result, and the warnings given on the way to it. -/
structure Logged (α : Type) where
  warnings : List String
  result : Except Error α

namespace Logged

variable {α β : Type}

/-- Go on with the result, unless it is an error. -/
def bind (logged : Logged α) (next : α → Logged β) : Logged β :=
  match logged.result with
  | .ok value =>
    let after := next value
    ⟨logged.warnings ++ after.warnings, after.result⟩
  | .error error => ⟨logged.warnings, .error error⟩

instance : Monad Logged where
  pure value := ⟨[], .ok value⟩
  bind := bind

/-- A result without warnings. -/
def ofExcept (result : Except Error α) : Logged α :=
  ⟨[], result⟩

/-- Give warnings. -/
def warn (warnings : List String) : Logged Unit :=
  ⟨warnings, .ok ()⟩

end Logged

end InfraSynth

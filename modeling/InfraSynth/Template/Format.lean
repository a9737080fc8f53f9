import InfraSynth.Files.Path

/-!
# Formats of templates

The extension of a file says in which format a template is written.
-/

namespace InfraSynth.Template

/-- A format of templates. -/
inductive Format
  | yaml
  | json
  deriving DecidableEq, Repr

/-- The format that an extension stands for, in small or capital letters. -/
def Format.ofExtension? (extension : String) : Option Format :=
  match Text.lowerAscii extension with
  | "yaml" | "yml" => some .yaml
  | "json" => some .json
  | _ => none

/-- The format of the template at a path. -/
def Format.ofPath? (path : String) : Option Format :=
  (Files.extension? path).bind ofExtension?

/-- Whether there may be a template at a path. -/
def isTemplatePath (path : String) : Bool :=
  (Format.ofPath? path).isSome

end InfraSynth.Template

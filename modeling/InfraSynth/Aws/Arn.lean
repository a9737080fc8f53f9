import InfraSynth.Check.Basic

/-!
# Identifiers of resources

Amazon Resource Names, and the short identifiers that begin with the kind of the
resource.  Where an identifier is expected, an interpolation is accepted too.
-/

namespace InfraSynth.Aws

/-- Resource names: partition, service, region, account and a remainder that is
not empty, separated by colons. -/
def arnPattern : Pattern :=
  .sequence [
    .literal "arn:aws",
    .many (.set (.union .letter (.single '-'))),
    .literal ":",
    .atLeastOnce (.set (.union .alphanumeric (.single '-'))),
    .literal ":",
    .many (.set (.unions [.lower, .asciiDigit, .single '-'])),
    .literal ":",
    .optional (.alt (.times 12 (.set .digit)) (.literal "aws")),
    .literal ":",
    .atLeastOnce (.set (.complement (.single '\n')))]

/-- The text must be a resource name. -/
def checkArn (field value : String) : List Violation :=
  Check.formatOrReference field value arnPattern "a valid ARN"

/-- The text must be an identifier of resources of a kind, such as `vpc`: the
kind, a hyphen, and 8 to 17 hexadecimal digits. -/
def checkResourceId (field value kind : String) : List Violation :=
  Check.formatWrittenOrReference field value s!"^{kind}-[0-9a-f]\x7b8,17\x7d$" s!"a {kind}- id"

/-- A name and the beginning of a generated name may not both be given. -/
def checkNameChoice (nameField : String) (name : Option String) (startField : String)
    (start : Option String) : List Violation :=
  Check.atMostOneOf [(nameField, name.isSome), (startField, start.isSome)]

end InfraSynth.Aws

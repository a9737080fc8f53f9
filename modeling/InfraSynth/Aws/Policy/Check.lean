import InfraSynth.Aws.Policy.Document
import InfraSynth.Check.Basic

/-!
# Checks of policy documents

A document is an object with a known version and at least one statement.  Each
statement has an effect, and names actions or excludes some.  A trust policy says
who may assume a role, so its statements name principals; an identity policy says
what may be done, so its statements name resources and no principals.
-/

namespace InfraSynth.Aws.PolicyDocument

/-- What a policy is attached to. -/
inductive Kind
  /-- A role, to say who may assume it. -/
  | trust
  /-- An identity, to say what it may do. -/
  | identity
  deriving DecidableEq, Repr

/-- The known versions of the policy language. -/
def versions : List String :=
  ["2012-10-17", "2008-10-17"]

/-- Actions: all of them, or a service and a verb in which `*` stands for any
text. -/
def actionPattern : Pattern :=
  .alt (.literal "*") (.sequence [
    .atLeastOnce (.set (.union .alphanumeric (.single '-'))),
    .literal ":",
    .atLeastOnce (.set (.union .alphanumeric (.single '*')))])

/-- The text of a key must be one of those allowed. -/
def checkText (path key : String) (value : Option String) (allowed : List String) :
    List Violation :=
  match value with
  | some value => Check.oneOf (Path.field path key) value allowed
  | none => Check.required (Path.field path key) false

/-- A statement must have one of two keys, and not both. -/
def checkOneKey (path : String) (statement : Entries Json) (key negated : String) :
    List Violation :=
  Check.exactlyOneOf [
    (Path.field path key, Entries.contains statement key),
    (Path.field path negated, Entries.contains statement negated)]

/-- The actions under a key must be well formed. -/
def checkActions (path : String) (statement : Entries Json) (key : String) : List Violation :=
  (textOrList (Entries.get? statement key)).flatMap fun action =>
    Check.format (Path.field path key) action actionPattern "an IAM action"

/-- What a statement says about whom or what it applies to. -/
def checkSubject (path : String) (statement : Entries Json) : Kind → List Violation
  | .trust => checkOneKey path statement "Principal" "NotPrincipal"
  | .identity =>
    checkOneKey path statement "Resource" "NotResource" ++
    Check.forbids (Path.field path "Principal") (Entries.contains statement "Principal") true
      "in an identity policy"

/-- What is wrong with a statement. -/
def checkStatement (kind : Kind) (path : String) (statement : Entries Json) : List Violation :=
  checkText path "Effect" (effectOf statement) ["Allow", "Deny"] ++
  checkOneKey path statement "Action" "NotAction" ++
  checkActions path statement "Action" ++
  checkActions path statement "NotAction" ++
  checkSubject path statement kind

/-- The identifiers of the statements that have one. -/
def statementIds (policy : PolicyDocument) : List String :=
  policy.statements.filterMap fun statement => (Entries.get? statement "Sid").bind Json.text?

/-- What is wrong with a policy in a field. -/
def check (policy : PolicyDocument) (field : String) (kind : Kind) : List Violation :=
  if policy.value.entries?.isNone then
    [⟨.format, field, "policy document must be a JSON object"⟩]
  else
    let path := Path.field field "Statement"
    checkText field "Version" policy.version? versions ++
    Check.count path policy.statements.length 1 none ++
    Check.unique (Path.field path "Sid") policy.statementIds ++
    Path.flatMapItems path policy.statements (checkStatement kind)

end InfraSynth.Aws.PolicyDocument

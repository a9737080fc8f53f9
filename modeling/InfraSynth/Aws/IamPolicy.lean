import InfraSynth.Aws.Arn
import InfraSynth.Aws.Policy.Check
import InfraSynth.Aws.Tags
import InfraSynth.Resource

/-!
# `aws_iam_policy`

A policy that can be attached to several identities.
-/

namespace InfraSynth.Aws

/-- Names of policies and roles: word characters and a few signs. -/
def identityNamePattern : Pattern :=
  .atLeastOnce (.set (.union .word (.ofText "+=,.@-")))

/-- The attributes of a policy. -/
structure IamPolicy where
  name : Option String
  nameStart : Option String
  path : String
  description : Option String
  policy : PolicyDocument
  tags : TextMap
  deriving DecidableEq

namespace IamPolicy

/-- How the attributes are written. -/
def record : JsonRecord IamPolicy where
  name := "IamPolicyAttributes"
  types := _
  fields :=
    .cons (.optional "name" .text) <|
    .cons (.optional "name_prefix" .text) <|
    .cons (.defaulted "path" .text "/") <|
    .cons (.optional "description" .text) <|
    .cons (.required "policy" PolicyDocument.codec) <|
    .cons (.textMap "tags") .nil
  build := fun (name, nameStart, path, description, policy, tags, ()) =>
    { name, nameStart, path, description, policy, tags }
  row policy := (policy.name, policy.nameStart, policy.path, policy.description, policy.policy,
    policy.tags, ())

/-- What is wrong with a name or the beginning of one. -/
def checkName (field : String) (name : Option String) : List Violation :=
  name.toList.flatMap fun name =>
    Check.length field name 1 128 ++
    Check.format field name identityNamePattern "a valid policy name"

/-- What is wrong with the attributes. -/
def violations (policy : IamPolicy) : List Violation :=
  checkNameChoice "name" policy.name "name_prefix" policy.nameStart ++
  checkName "name" policy.name ++
  checkName "name_prefix" policy.nameStart ++
  Check.that (Text.startsWith policy.path "/" && Text.endsWith policy.path "/") .format "path"
    "must begin and end with '/'" ++
  policy.description.toList.flatMap (fun text => Check.length "description" text 0 1000) ++
  policy.policy.check "policy" .identity ++
  Check.length "policy" policy.policy.value.compact 1 6144 ++
  checkTags "tags" policy.tags

/-- Granting wildcard actions is worth a warning. -/
def warnings (policy : IamPolicy) : List String :=
  if policy.policy.allowsWildcard then ["policy grants wildcard actions"] else []

/-- What follows from the attributes of a policy. -/
structure Computed where
  statementCount : Nat
  allowsWildcard : Bool
  isReadOnly : Bool
  deriving DecidableEq

/-- What follows from the attributes. -/
def computed (policy : IamPolicy) : Computed where
  statementCount := policy.policy.statements.length
  allowsWildcard := policy.policy.allowsWildcard
  isReadOnly := policy.policy.isReadOnly

/-- What follows from the attributes, as JSON. -/
def Computed.toJson (computed : Computed) : Json :=
  .object [
    ("statement_count", .nat computed.statementCount),
    ("allows_wildcard_action", computed.allowsWildcard),
    ("is_read_only", computed.isReadOnly)]

end IamPolicy

instance : Resource IamPolicy where
  typeName := "aws_iam_policy"
  outputs := ["id", "arn", "name", "policy_id"]
  record := IamPolicy.record
  check policy := ⟨policy.violations, policy.warnings⟩
  computed policy := policy.computed.toJson

end InfraSynth.Aws

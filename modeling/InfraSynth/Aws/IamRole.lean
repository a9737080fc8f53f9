import InfraSynth.Aws.IamPolicy

/-!
# `aws_iam_role`

A role that services, accounts or the users of an identity provider may assume.
Its trust policy says who may; inline policies and managed policies say what the
role may do.
-/

namespace InfraSynth.Aws

/-- A policy that is part of a role. -/
structure InlinePolicy where
  name : String
  policy : PolicyDocument
  deriving DecidableEq

/-- How an inline policy is written. -/
def InlinePolicy.record : JsonRecord InlinePolicy where
  name := "InlinePolicy"
  types := _
  fields :=
    .cons (.required "name" .text) <|
    .cons (.required "policy" PolicyDocument.codec) .nil
  build := fun (name, policy, ()) => { name, policy }
  row inline := (inline.name, inline.policy, ())

/-- The attributes of a role. -/
structure IamRole where
  name : Option String
  nameStart : Option String
  trustPolicy : PolicyDocument
  description : Option String
  path : String
  maxSessionDuration : UInt32
  permissionsBoundary : Option String
  forceDetachPolicies : Bool
  inlinePolicies : List InlinePolicy
  managedPolicies : List String
  tags : TextMap
  deriving DecidableEq

namespace IamRole

/-- The role with a trust policy and every other attribute at its default. -/
def ofTrustPolicy (trustPolicy : PolicyDocument) : IamRole where
  name := none
  nameStart := none
  trustPolicy
  description := none
  path := "/"
  maxSessionDuration := 3600
  permissionsBoundary := none
  forceDetachPolicies := false
  inlinePolicies := []
  managedPolicies := []
  tags := .empty

/-- How the attributes are written. -/
def record : JsonRecord IamRole where
  name := "IamRoleAttributes"
  types := _
  fields :=
    .cons (.optional "name" .text) <|
    .cons (.optional "name_prefix" .text) <|
    .cons (.required "assume_role_policy" PolicyDocument.codec) <|
    .cons (.optional "description" .text) <|
    .cons (.defaulted "path" .text "/") <|
    .cons (.defaulted "max_session_duration" .uint32 3600) <|
    .cons (.optional "permissions_boundary" .text) <|
    .cons (.defaulted "force_detach_policies" .flag false) <|
    .cons (.listed "inline_policy" InlinePolicy.record.codec) <|
    .cons (.listed "managed_policy_arns" .text) <|
    .cons (.textMap "tags") .nil
  build := fun (name, nameStart, trustPolicy, description, path, maxSessionDuration,
      permissionsBoundary, forceDetachPolicies, inlinePolicies, managedPolicies, tags, ()) =>
    { name, nameStart, trustPolicy, description, path, maxSessionDuration,
      permissionsBoundary, forceDetachPolicies, inlinePolicies, managedPolicies, tags }
  row role := (role.name, role.nameStart, role.trustPolicy, role.description, role.path,
    role.maxSessionDuration, role.permissionsBoundary, role.forceDetachPolicies,
    role.inlinePolicies, role.managedPolicies, role.tags, ())

/-- Paths: a slash, or visible ASCII characters between slashes. -/
def pathPattern : Pattern :=
  .cat (.literal "/") (.optional (.cat (.atLeastOnce (.set (.range '!' '~'))) (.literal "/")))

/-- What is wrong with the name, the description, the path and the limits. -/
def checkBasics (role : IamRole) : List Violation :=
  checkNameChoice "name" role.name "name_prefix" role.nameStart ++
  role.name.toList.flatMap (fun name =>
    Check.length "name" name 1 64 ++
    Check.format "name" name identityNamePattern "a valid role name") ++
  role.nameStart.toList.flatMap (fun start =>
    Check.length "name_prefix" start 1 38 ++
    Check.format "name_prefix" start identityNamePattern "a valid role name prefix") ++
  role.description.toList.flatMap (fun text => Check.length "description" text 0 1000) ++
  Check.length "path" role.path 1 512 ++
  Check.format "path" role.path pathPattern "'/' or a path beginning and ending with '/'" ++
  Check.range "max_session_duration" role.maxSessionDuration.toNat 3600 43200 ++
  role.permissionsBoundary.toList.flatMap (checkArn "permissions_boundary")

/-- What is wrong with an inline policy. -/
def checkInline (path : String) (inline : InlinePolicy) : List Violation :=
  Check.length s!"{path}.name" inline.name 1 128 ++
  inline.policy.check s!"{path}.policy" .identity

/-- What is wrong with the policies. -/
def checkPolicies (role : IamRole) : List Violation :=
  role.trustPolicy.check "assume_role_policy" .trust ++
  Check.unique "inline_policy.name" (role.inlinePolicies.map (·.name)) ++
  Path.flatMapItems "inline_policy" role.inlinePolicies checkInline ++
  Check.count "managed_policy_arns" role.managedPolicies.length 0 (some 20) ++
  Check.unique "managed_policy_arns" role.managedPolicies ++
  Path.flatMapItems "managed_policy_arns" role.managedPolicies checkArn

/-- What is wrong with the attributes. -/
def violations (role : IamRole) : List Violation :=
  role.checkBasics ++ role.checkPolicies ++ checkTags "tags" role.tags

/-- Who may assume a role. -/
inductive Trust
  | service
  | account
  | federated
  | mixed
  deriving DecidableEq, Repr

/-- The name of the kind of trust. -/
def Trust.name : Trust → String
  | service => "service"
  | account => "account"
  | federated => "federated"
  | mixed => "mixed"

/-- Who may assume a role with a trust policy; one kind of principal alone, or
mixed. -/
def Trust.ofPolicy (policy : PolicyDocument) : Trust :=
  match policy.services.isEmpty, policy.accounts.isEmpty, policy.federations.isEmpty with
  | false, true, true => service
  | true, false, true => account
  | true, true, false => federated
  | _, _, _ => mixed

/-- What follows from the attributes of a role. -/
structure Computed where
  trustedServices : List String
  trust : Trust
  isServiceRole : Bool
  inlinePolicyCount : Nat
  managedPolicyCount : Nat
  deriving DecidableEq

/-- What follows from the attributes. -/
def computed (role : IamRole) : Computed where
  trustedServices := role.trustPolicy.services
  trust := .ofPolicy role.trustPolicy
  isServiceRole := Trust.ofPolicy role.trustPolicy = .service
  inlinePolicyCount := role.inlinePolicies.length
  managedPolicyCount := role.managedPolicies.length

/-- What follows from the attributes, as JSON. -/
def Computed.toJson (computed : Computed) : Json :=
  .object [
    ("trusted_services", .strings computed.trustedServices),
    ("trust_kind", computed.trust.name),
    ("is_service_role", computed.isServiceRole),
    ("inline_policy_count", .nat computed.inlinePolicyCount),
    ("managed_policy_count", .nat computed.managedPolicyCount)]

end IamRole

instance : Resource IamRole where
  typeName := "aws_iam_role"
  outputs := ["id", "arn", "name", "unique_id", "create_date"]
  record := IamRole.record
  check role := ⟨role.violations, []⟩
  computed role := role.computed.toJson

end InfraSynth.Aws

import InfraSynth.Aws.Tags
import InfraSynth.Aws.WebAcl.StatementCheck
import InfraSynth.Aws.WebAcl.StatementEquality
import InfraSynth.Resource

/-!
# `aws_wafv2_web_acl`

A web access control list: rules that are tried in order, and an action for the
requests that none of them matches.  A rule that uses a group of rules overrides
the actions of the group; every other rule has an action of its own.
-/

namespace InfraSynth.Aws

namespace WebAcl

/-- What a list protects. -/
inductive Scope
  | regional
  | cloudfront
  deriving DecidableEq, Repr

instance : Enumeration Scope where
  all := [.regional, .cloudfront]
  name
    | .regional => "REGIONAL"
    | .cloudfront => "CLOUDFRONT"

/-- What is recorded about the requests that a rule or a list sees. -/
structure Visibility where
  metricsEnabled : Bool
  metricName : String
  sampledRequestsEnabled : Bool
  deriving DecidableEq

namespace Visibility

/-- Everything is recorded under a name. -/
def ofMetric (metricName : String) : Visibility :=
  ⟨true, metricName, true⟩

/-- How the settings are written. -/
def record : JsonRecord Visibility where
  name := "VisibilityConfig"
  types := _
  fields :=
    .cons (.required "cloudwatch_metrics_enabled" .flag) <|
    .cons (.required "metric_name" .text) <|
    .cons (.required "sampled_requests_enabled" .flag) .nil
  build := fun (metricsEnabled, metricName, sampledRequestsEnabled, ()) =>
    { metricsEnabled, metricName, sampledRequestsEnabled }
  row config := (config.metricsEnabled, config.metricName, config.sampledRequestsEnabled, ())

/-- Names of metrics. -/
def metricNamePattern : Pattern :=
  .atLeastOnce (.set (.union .word (.ofText "#:.-/")))

/-- What is wrong with the settings. -/
def check (path : String) (config : Visibility) : List Violation :=
  let field := Path.field path "metric_name"
  Check.length field config.metricName 1 128 ++
  Check.format field config.metricName metricNamePattern "a valid metric name"

end Visibility

/-- A label that a rule sets. -/
structure Label where
  name : String
  deriving DecidableEq

/-- How a label is written. -/
def Label.record : JsonRecord Label where
  name := "RuleLabel"
  types := _
  fields := .cons (.required "name" .text) .nil
  build := fun (name, ()) => { name }
  row label := (label.name, ())

/-- A rule. -/
structure Rule where
  name : String
  priority : UInt32
  action : Option RuleAction
  overrideAction : Option OverrideAction
  statement : Statement
  visibility : Visibility
  labels : List Label
  deriving DecidableEq

/-- Names of lists and rules. -/
def namePattern : Pattern :=
  .atLeastOnce (.set (.union .word (.single '-')))

namespace Rule

/-- How a rule is written. -/
def record : JsonRecord Rule where
  name := "Rule"
  types := _
  fields :=
    .cons (.required "name" .text) <|
    .cons (.required "priority" .uint32) <|
    .cons (.optional "action" RuleAction.record.codec) <|
    .cons (.optional "override_action" OverrideAction.record.codec) <|
    .cons (.required "statement" Statement.codec) <|
    .cons (.required "visibility_config" Visibility.record.codec) <|
    .cons (.listed "rule_label" Label.record.codec) .nil
  build := fun (name, priority, action, overrideAction, statement, visibility, labels, ()) =>
    { name, priority, action, overrideAction, statement, visibility, labels }
  row rule := (rule.name, rule.priority, rule.action, rule.overrideAction, rule.statement,
    rule.visibility, rule.labels, ())

/-- Whether the rule uses a group of rules. -/
def usesRuleGroup (rule : Rule) : Bool :=
  rule.statement.body.isRuleGroup

/-- What is wrong with the choice of the action. -/
def checkAction (path : String) (rule : Rule) : List Violation :=
  let action := Path.field path "action"
  let overrideAction := Path.field path "override_action"
  Check.exactlyOneOf [
    (action, rule.action.isSome), (overrideAction, rule.overrideAction.isSome)] ++
  Check.forbids action rule.action.isSome rule.usesRuleGroup "for rule group statements" ++
  Check.forbids overrideAction rule.overrideAction.isSome (!rule.usesRuleGroup)
    "unless the statement references a rule group" ++
  rule.action.toList.flatMap (RuleAction.check action) ++
  rule.overrideAction.toList.flatMap (OverrideAction.check overrideAction)

/-- What is wrong with a rule. -/
def check (path : String) (rule : Rule) : List Violation :=
  let name := Path.field path "name"
  Check.length name rule.name 1 128 ++
  Check.format name rule.name namePattern "a valid rule name" ++
  rule.checkAction path ++
  rule.statement.check (Path.field path "statement") .top ++
  rule.visibility.check (Path.field path "visibility_config") ++
  Path.flatMapItems (Path.field path "rule_label") rule.labels fun path label =>
    Check.length (Path.field path "name") label.name 1 1024

end Rule

end WebAcl

open WebAcl in
/-- The attributes of a web access control list. -/
structure WebAcl where
  name : String
  description : Option String
  scope : Scope
  defaultAction : DefaultAction
  rules : List WebAcl.Rule
  visibility : Visibility
  tags : TextMap
  deriving DecidableEq

namespace WebAcl

/-- The capacity that is included in the price of a list. -/
def includedCapacity : UInt32 := 1500

/-- The capacity that a list may not exceed. -/
def maxCapacity : UInt32 := 5000

/-- How the attributes are written. -/
def record : JsonRecord WebAcl where
  name := "Wafv2WebAclAttributes"
  types := _
  fields :=
    .cons (.required "name" .text) <|
    .cons (.optional "description" .text) <|
    .cons (.required "scope" .named) <|
    .cons (.required "default_action" DefaultAction.record.codec) <|
    .cons { Field.listed "rule" Rule.record.codec with aliases := ["rules"] } <|
    .cons (.required "visibility_config" Visibility.record.codec) <|
    .cons (.textMap "tags") .nil
  build := fun (name, description, scope, defaultAction, rules, visibility, tags, ()) =>
    { name, description, scope, defaultAction, rules, visibility, tags }
  row acl := (acl.name, acl.description, acl.scope, acl.defaultAction, acl.rules,
    acl.visibility, acl.tags, ())

/-- The capacity that the rules take, counted in 32 bits. -/
def capacity (acl : WebAcl) : UInt32 :=
  (acl.rules.map fun rule => rule.statement.capacity).foldr (· + ·) 0

/-- What is wrong with the capacity. -/
def checkCapacity (acl : WebAcl) : List Violation :=
  Check.that (acl.capacity ≤ maxCapacity) .range "rule"
    s!"estimated capacity {acl.capacity} exceeds the limit of {maxCapacity}"

/-- What is wrong with the attributes. -/
def violations (acl : WebAcl) : List Violation :=
  Check.length "name" acl.name 1 128 ++
  Check.format "name" acl.name namePattern "a valid web ACL name" ++
  acl.description.toList.flatMap (fun text => Check.length "description" text 1 256) ++
  acl.defaultAction.check ++
  Check.unique "rule.name" (acl.rules.map (·.name)) ++
  Check.unique "rule.priority" (acl.rules.map fun rule => toString rule.priority) ++
  Path.flatMapItems "rule" acl.rules Rule.check ++
  acl.checkCapacity ++
  acl.visibility.check "visibility_config" ++
  checkTags "tags" acl.tags

/-- Capacity beyond what is included in the price is worth a warning. -/
def warnings (acl : WebAcl) : List String :=
  if includedCapacity < acl.capacity then
    [s!"estimated capacity {acl.capacity} exceeds the {includedCapacity} WCUs included in " ++
      "the base price"]
  else []

/-- The managed groups that the rules use. -/
def managedGroups (acl : WebAcl) : List String :=
  acl.rules.flatMap fun rule => rule.statement.managedGroups

/-- The price of the list for a month: five dollars, and one more for each rule
and for each managed group. -/
def cost (acl : WebAcl) : Binary64 :=
  ((Binary64.ofNat 5).add (.ofNat acl.rules.length)).add (.ofNat acl.managedGroups.length)

/-- What follows from the attributes of a list. -/
structure Computed where
  ruleCount : Nat
  capacity : UInt32
  exceedsIncludedCapacity : Bool
  managedGroups : List String
  usesManagedRules : Bool
  hasRateLimiting : Bool
  monthlyCost : Binary64
  deriving DecidableEq

/-- What follows from the attributes. -/
def computed (acl : WebAcl) : Computed where
  ruleCount := acl.rules.length
  capacity := acl.capacity
  exceedsIncludedCapacity := includedCapacity < acl.capacity
  managedGroups := acl.managedGroups
  usesManagedRules := !acl.managedGroups.isEmpty
  hasRateLimiting := acl.rules.any fun rule => rule.statement.hasRateLimit
  monthlyCost := acl.cost

/-- What follows from the attributes, as JSON. -/
def Computed.toJson (computed : Computed) : Json :=
  .object [
    ("rule_count", .nat computed.ruleCount),
    ("estimated_capacity", .nat computed.capacity.toNat),
    ("exceeds_default_capacity", computed.exceedsIncludedCapacity),
    ("managed_rule_groups", .strings computed.managedGroups),
    ("uses_managed_rules", computed.usesManagedRules),
    ("has_rate_limiting", computed.hasRateLimiting),
    ("monthly_cost", .float computed.monthlyCost)]

end WebAcl

instance : Resource WebAcl where
  typeName := "aws_wafv2_web_acl"
  outputs := ["id", "arn", "capacity", "lock_token"]
  record := WebAcl.record
  check acl := ⟨acl.violations, acl.warnings⟩
  computed acl := acl.computed.toJson
  monthlyCost acl := some acl.cost

end InfraSynth.Aws

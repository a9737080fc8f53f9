import InfraSynth.Aws.ResourceType
import InfraSynth.Proofs.Decode.Kept

/-!
# The layout of attributes

Which fields of the attributes hold other things than plain values: structures
and lists of them, choices, documents, maps of texts and binary64 numbers.  The
layout is the reference that what is written is compared with, so it names the
fields itself and refers to no record.
-/

namespace InfraSynth.Aws

/-- The structures that the attributes are made of. -/
inductive Structure
  /-- A structure of plain fields. -/
  | flat
  /-- A structure of plain fields and tags. -/
  | tagged
  | vpc
  | securityGroup
  | iamPolicy
  | inlinePolicy
  | iamRole
  | targetGroup
  | healthCheck
  | stickiness
  | metricAlarm
  | metricQuery
  | queryMetric
  | webAcl
  | defaultAction
  | overrideAction
  | ruleAction
  | blockAction
  | rule
  | ruleOverride
  | fieldToMatch
  | statement
  /-- A statement that looks at a part of the request. -/
  | inspection
  | managedGroup
  | rateBased
  | statementList
  | negation
  | ruleGroup
  deriving DecidableEq

namespace Structure

/-- The fields of a structure that hold other things than plain values. -/
def fields : Structure → List (String × Shape Structure)
  | flat => []
  | tagged => [("tags", .textMap)]
  | vpc => [("instance_tenancy", .choice), ("tags", .textMap)]
  | securityGroup => [("ingress", .list flat), ("egress", .list flat), ("tags", .textMap)]
  | iamPolicy => [("policy", .document), ("tags", .textMap)]
  | inlinePolicy => [("policy", .document)]
  | iamRole => [
      ("assume_role_policy", .document), ("inline_policy", .list inlinePolicy), ("tags", .textMap)]
  | targetGroup => [
      ("protocol", .choice), ("protocol_version", .choice), ("target_type", .choice),
      ("health_check", .struct healthCheck), ("stickiness", .struct stickiness),
      ("tags", .textMap)]
  | healthCheck => [("protocol", .choice)]
  | stickiness => [("type", .choice)]
  | metricAlarm => [
      ("comparison_operator", .choice), ("threshold", .binary64), ("statistic", .choice),
      ("dimensions", .textMap), ("metric_query", .list metricQuery),
      ("treat_missing_data", .choice), ("tags", .textMap)]
  | metricQuery => [("metric", .struct queryMetric)]
  | queryMetric => [("dimensions", .textMap)]
  | webAcl => [
      ("scope", .choice), ("default_action", .struct defaultAction), ("rule", .list rule),
      ("visibility_config", .struct flat), ("tags", .textMap)]
  | defaultAction => [("allow", .struct flat), ("block", .struct blockAction)]
  | overrideAction => [("none", .struct flat), ("count", .struct flat)]
  | ruleAction => [
      ("allow", .struct flat), ("block", .struct blockAction), ("count", .struct flat),
      ("captcha", .struct flat), ("challenge", .struct flat)]
  | blockAction => [("custom_response", .struct flat)]
  | rule => [
      ("action", .struct ruleAction), ("override_action", .struct overrideAction),
      ("statement", .struct statement), ("visibility_config", .struct flat),
      ("rule_label", .list flat)]
  | ruleOverride => [("action_to_use", .struct ruleAction)]
  | fieldToMatch => [
      ("all_query_arguments", .struct flat), ("body", .struct flat), ("method", .struct flat),
      ("query_string", .struct flat), ("single_header", .struct flat),
      ("single_query_argument", .struct flat), ("uri_path", .struct flat)]
  | statement => [
      ("byte_match_statement", .struct inspection), ("geo_match_statement", .struct flat),
      ("ip_set_reference_statement", .struct flat),
      ("managed_rule_group_statement", .struct managedGroup),
      ("rate_based_statement", .struct rateBased), ("and_statement", .struct statementList),
      ("or_statement", .struct statementList), ("not_statement", .struct negation),
      ("size_constraint_statement", .struct inspection),
      ("sqli_match_statement", .struct inspection), ("xss_match_statement", .struct inspection),
      ("regex_pattern_set_reference_statement", .struct inspection),
      ("label_match_statement", .struct flat),
      ("rule_group_reference_statement", .struct ruleGroup)]
  | inspection => [("field_to_match", .struct fieldToMatch), ("text_transformation", .list flat)]
  | managedGroup => [
      ("rule_action_override", .list ruleOverride), ("scope_down_statement", .struct statement)]
  | rateBased => [("scope_down_statement", .struct statement)]
  | statementList => [("statement", .list statement)]
  | negation => [("statement", .struct statement)]
  | ruleGroup => [("rule_action_override", .list ruleOverride)]

/-- The name of a field, given a name under which it may be written. -/
def fieldName : Structure → String → String
  | webAcl, name => if name = "rules" then "rule" else name
  | _, name => name

end Structure

/-- What the fields of the attributes hold. -/
def layout : Schema Structure where
  shape s name := (s.fields.lookup name).getD .plain
  name := Structure.fieldName

@[simp] theorem layout_shape (s : Structure) (name : String) :
    layout.shape s name = (s.fields.lookup name).getD .plain :=
  rfl

/-- The structure of the attributes of a type. -/
def ResourceType.root : ResourceType → Structure
  | iamRole => .iamRole
  | iamPolicy => .iamPolicy
  | targetGroup => .targetGroup
  | webAcl => .webAcl
  | metricAlarm => .metricAlarm
  | bucket | subnet => .tagged
  | vpc => .vpc
  | securityGroup => .securityGroup

end InfraSynth.Aws

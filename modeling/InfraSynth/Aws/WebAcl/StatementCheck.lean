import InfraSynth.Aws.Arn
import InfraSynth.Aws.WebAcl.Statement

/-!
# Checks of statements

Exactly one kind of a statement may be set.  Statements that use a group of rules
or limit a rate may only stand at the top of a rule.  Each kind has its own
limits, and inner statements are checked where they stand.
-/

namespace InfraSynth.Aws.WebAcl

/-- Where a statement stands. -/
inductive Nesting
  /-- Directly in a rule. -/
  | top
  /-- Inside another statement. -/
  | nested
  deriving DecidableEq, Repr

/-- What is wrong with a statement at a path. -/
abbrev StatementCheck := (path : String) → Nesting → List Violation

/-- What is wrong with a text match. -/
def ByteMatch.check (path : String) (s : ByteMatch) : List Violation :=
  Check.length (Path.field path "search_string") s.searchString 1 200 ++
  Check.oneOf (Path.field path "positional_constraint") s.positionalConstraint
    ["EXACTLY", "STARTS_WITH", "ENDS_WITH", "CONTAINS", "CONTAINS_WORD"] ++
  s.fieldToMatch.check path ++
  Transformation.checkAll path s.transformations

/-- Codes of countries. -/
def countryPattern : Pattern :=
  .times 2 (.set .upper)

/-- What is wrong with a match of countries. -/
def GeoMatch.check (path : String) (s : GeoMatch) : List Violation :=
  let path := Path.field path "country_codes"
  Check.count path s.countryCodes.length 1 none ++
  Check.unique path s.countryCodes ++
  Path.flatMapItems path s.countryCodes fun path code =>
    Check.format path code countryPattern "an ISO 3166 alpha-2 country code"

/-- What is wrong with a reference to a set of addresses. -/
def IpSetReference.check (path : String) (s : IpSetReference) : List Violation :=
  checkArn (Path.field path "arn") s.arn

/-- What is wrong with the statement that restricts another one. -/
def checkScopeDown (path : String) (inner : Option StatementCheck) : List Violation :=
  inner.toList.flatMap fun check => check (Path.field path "scope_down_statement") .nested

/-- What is wrong with a managed group. -/
def ManagedGroup.check (path : String) (s : ManagedGroup StatementCheck) : List Violation :=
  Check.notBlank (Path.field path "name") s.name ++
  Check.notBlank (Path.field path "vendor_name") s.vendorName ++
  RuleOverride.checkAll path s.overrides ++
  checkScopeDown path s.scopeDown

/-- What is wrong with a rate limit. -/
def RateBased.check (path : String) (s : RateBased StatementCheck) : List Violation :=
  let keyPath := Path.field path "aggregate_key_type"
  Check.range (Path.field path "limit") s.limit.toNat 100 2000000000 ++
  Check.oneOf keyPath s.aggregateKeyType ["IP", "FORWARDED_IP", "CONSTANT"] ++
  Check.requires keyPath (s.aggregateKeyType = "CONSTANT") "scope_down_statement"
    s.scopeDown.isSome ++
  s.evaluationWindow.toList.flatMap (fun window =>
    Check.oneOf (Path.field path "evaluation_window_sec") (toString window)
      ["60", "120", "300", "600"]) ++
  checkScopeDown path s.scopeDown

/-- What is wrong with combined statements. -/
def StatementList.check (path : String) (s : StatementList StatementCheck) : List Violation :=
  let path := Path.field path "statement"
  Check.count path s.statements.length 2 none ++
  Path.flatMapItems path s.statements fun path check => check path .nested

/-- What is wrong with a negated statement. -/
def Negation.check (path : String) (s : Negation StatementCheck) : List Violation :=
  s.statement (Path.field path "statement") .nested

/-- What is wrong with a comparison of sizes. -/
def SizeConstraint.check (path : String) (s : SizeConstraint) : List Violation :=
  Check.oneOf (Path.field path "comparison_operator") s.comparisonOperator
    ["EQ", "NE", "LE", "LT", "GE", "GT"] ++
  Check.range (Path.field path "size") s.size.toNat 0 21474836480 ++
  s.fieldToMatch.check path ++
  Transformation.checkAll path s.transformations

/-- What is wrong with a search for attacks. -/
def AttackMatch.check (path : String) (s : AttackMatch) : List Violation :=
  s.fieldToMatch.check path ++
  Transformation.checkAll path s.transformations

/-- What is wrong with a reference to a set of expressions. -/
def PatternSetReference.check (path : String) (s : PatternSetReference) : List Violation :=
  checkArn (Path.field path "arn") s.arn ++
  s.fieldToMatch.check path ++
  Transformation.checkAll path s.transformations

/-- What is wrong with a match of labels. -/
def LabelMatch.check (path : String) (s : LabelMatch) : List Violation :=
  Check.oneOf (Path.field path "scope") s.scope ["LABEL", "NAMESPACE"] ++
  Check.length (Path.field path "key") s.key 1 1024

/-- What is wrong with a reference to a group of rules. -/
def RuleGroupReference.check (path : String) (s : RuleGroupReference) : List Violation :=
  checkArn (Path.field path "arn") s.arn ++
  RuleOverride.checkAll path s.overrides

namespace StatementBody

/-- Kinds that may not stand inside another statement. -/
def topOnly {σ : Type} (body : StatementBody σ) : Check.Group := [
  ("managed_rule_group_statement", body.managedGroup.isSome),
  ("rule_group_reference_statement", body.ruleGroup.isSome),
  ("rate_based_statement", body.rateBased.isSome)]

/-- What is wrong with the choice of the kind. -/
def checkKind {σ : Type} (body : StatementBody σ) (path : String) (nesting : Nesting) :
    List Violation :=
  Check.exactlyOneOf (body.presence.map fun (name, present) => (Path.field path name, present)) ++
  if nesting = .nested then
    body.topOnly.flatMap fun (name, present) =>
      Check.forbids (Path.field path name) present true "inside another statement"
  else []

/-- What is wrong with a statement, given the checks of its inner statements. -/
def check (body : StatementBody StatementCheck) : StatementCheck := fun path nesting =>
  let at_ (name : String) := Path.field path name
  body.checkKind path nesting ++
  body.byteMatch.toList.flatMap (ByteMatch.check (at_ "byte_match_statement")) ++
  body.geoMatch.toList.flatMap (GeoMatch.check (at_ "geo_match_statement")) ++
  body.ipSet.toList.flatMap (IpSetReference.check (at_ "ip_set_reference_statement")) ++
  body.managedGroup.toList.flatMap (ManagedGroup.check (at_ "managed_rule_group_statement")) ++
  body.rateBased.toList.flatMap (RateBased.check (at_ "rate_based_statement")) ++
  body.conjunction.toList.flatMap (StatementList.check (at_ "and_statement")) ++
  body.disjunction.toList.flatMap (StatementList.check (at_ "or_statement")) ++
  body.negation.toList.flatMap (Negation.check (at_ "not_statement")) ++
  body.sizeConstraint.toList.flatMap (SizeConstraint.check (at_ "size_constraint_statement")) ++
  body.sqlInjection.toList.flatMap (AttackMatch.check (at_ "sqli_match_statement")) ++
  body.crossSiteScripting.toList.flatMap (AttackMatch.check (at_ "xss_match_statement")) ++
  body.patternSet.toList.flatMap
    (PatternSetReference.check (at_ "regex_pattern_set_reference_statement")) ++
  body.label.toList.flatMap (LabelMatch.check (at_ "label_match_statement")) ++
  body.ruleGroup.toList.flatMap (RuleGroupReference.check (at_ "rule_group_reference_statement"))

end StatementBody

/-- What is wrong with a tree of statements. -/
def Statement.check (statement : Statement) : StatementCheck :=
  statement.fold StatementBody.check

end InfraSynth.Aws.WebAcl

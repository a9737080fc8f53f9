import InfraSynth.Aws.WebAcl.Inspection

/-!
# Statements

A statement says which requests a rule matches.  It has one of fourteen kinds;
some of them combine or restrict other statements, so statements are trees.

## Strategy

`StatementBody σ` is one statement whose inner statements are of type `σ`, and
`Statement` is the tree that this gives.  A function on trees is then given by
what it does with one statement once its inner statements have been dealt with:
`Statement.fold` turns such a function on bodies into one on trees.

## Main definitions

* `Statement.kinds` names the kinds that are set.
* `Statement.capacity` estimates the units that a statement takes.
* `Statement.managedGroups` and `Statement.hasRateLimit` look for kinds anywhere
  in a tree.
* `Statement.codec` reads and writes statements.
-/

namespace InfraSynth.Aws.WebAcl

/-- Matching a text in a part of the request. -/
structure ByteMatch where
  searchString : String
  positionalConstraint : String
  fieldToMatch : FieldToMatch
  transformations : List Transformation
  deriving DecidableEq

/-- Matching the country of origin. -/
structure GeoMatch where
  countryCodes : List String
  deriving DecidableEq

/-- Matching a set of addresses. -/
structure IpSetReference where
  arn : String
  deriving DecidableEq

/-- Using a group of rules that someone else maintains. -/
structure ManagedGroup (σ : Type) where
  name : String
  vendorName : String
  version : Option String
  overrides : List RuleOverride
  scopeDown : Option σ

/-- Matching requests that come too often. -/
structure RateBased (σ : Type) where
  limit : UInt64
  aggregateKeyType : String
  evaluationWindow : Option UInt32
  scopeDown : Option σ

/-- Several statements that are combined. -/
structure StatementList (σ : Type) where
  statements : List σ

/-- A statement that is negated. -/
structure Negation (σ : Type) where
  statement : σ

/-- Comparing the size of a part of the request. -/
structure SizeConstraint where
  comparisonOperator : String
  size : UInt64
  fieldToMatch : FieldToMatch
  transformations : List Transformation
  deriving DecidableEq

/-- Looking for an attack in a part of the request. -/
structure AttackMatch where
  fieldToMatch : FieldToMatch
  transformations : List Transformation
  deriving DecidableEq

/-- Matching a set of regular expressions. -/
structure PatternSetReference where
  arn : String
  fieldToMatch : FieldToMatch
  transformations : List Transformation
  deriving DecidableEq

/-- Matching a label that an earlier rule has set. -/
structure LabelMatch where
  scope : String
  key : String
  deriving DecidableEq

/-- Using a group of one's own rules. -/
structure RuleGroupReference where
  arn : String
  overrides : List RuleOverride
  deriving DecidableEq

/-- One statement with inner statements of some type. -/
structure StatementBody (σ : Type) where
  byteMatch : Option ByteMatch
  geoMatch : Option GeoMatch
  ipSet : Option IpSetReference
  managedGroup : Option (ManagedGroup σ)
  rateBased : Option (RateBased σ)
  conjunction : Option (StatementList σ)
  disjunction : Option (StatementList σ)
  negation : Option (Negation σ)
  sizeConstraint : Option SizeConstraint
  sqlInjection : Option AttackMatch
  crossSiteScripting : Option AttackMatch
  patternSet : Option PatternSetReference
  label : Option LabelMatch
  ruleGroup : Option RuleGroupReference

/-- A tree of statements. -/
inductive Statement
  | ofBody (body : StatementBody Statement)

/-! ## One statement -/

namespace StatementBody

variable {σ : Type}

/-- The kinds, and whether each is set. -/
def presence (body : StatementBody σ) : Check.Group := [
  ("byte_match_statement", body.byteMatch.isSome),
  ("geo_match_statement", body.geoMatch.isSome),
  ("ip_set_reference_statement", body.ipSet.isSome),
  ("managed_rule_group_statement", body.managedGroup.isSome),
  ("rate_based_statement", body.rateBased.isSome),
  ("and_statement", body.conjunction.isSome),
  ("or_statement", body.disjunction.isSome),
  ("not_statement", body.negation.isSome),
  ("size_constraint_statement", body.sizeConstraint.isSome),
  ("sqli_match_statement", body.sqlInjection.isSome),
  ("xss_match_statement", body.crossSiteScripting.isSome),
  ("regex_pattern_set_reference_statement", body.patternSet.isSome),
  ("label_match_statement", body.label.isSome),
  ("rule_group_reference_statement", body.ruleGroup.isSome)]

/-- Whether the statement refers to a group of rules. -/
def isRuleGroup (body : StatementBody σ) : Bool :=
  body.managedGroup.isSome || body.ruleGroup.isSome

/-- The inner statements. -/
def children (body : StatementBody σ) : List σ :=
  body.conjunction.toList.flatMap (·.statements) ++
  body.disjunction.toList.flatMap (·.statements) ++
  body.negation.toList.map (·.statement) ++
  body.rateBased.toList.flatMap (·.scopeDown.toList) ++
  body.managedGroup.toList.flatMap (·.scopeDown.toList)

/-- The units that common managed groups take. -/
def managedCapacities : List (String × UInt32) := [
  ("AWSManagedRulesCommonRuleSet", 700),
  ("AWSManagedRulesKnownBadInputsRuleSet", 200),
  ("AWSManagedRulesSQLiRuleSet", 200),
  ("AWSManagedRulesLinuxRuleSet", 200),
  ("AWSManagedRulesUnixRuleSet", 100),
  ("AWSManagedRulesWindowsRuleSet", 200),
  ("AWSManagedRulesPHPRuleSet", 100),
  ("AWSManagedRulesWordPressRuleSet", 100),
  ("AWSManagedRulesAdminProtectionRuleSet", 100),
  ("AWSManagedRulesAmazonIpReputationList", 25),
  ("AWSManagedRulesAnonymousIpList", 50),
  ("AWSManagedRulesBotControlRuleSet", 50),
  ("AWSManagedRulesATPRuleSet", 50)]

/-- The units that a managed group takes. -/
def managedCapacity (name : String) : UInt32 :=
  (managedCapacities.lookup name).getD 100

/-- The units that the statement takes apart from its inner statements; the
first kind that is set decides. -/
def ownCapacity (body : StatementBody σ) : UInt32 :=
  if let some s := body.byteMatch then 1 + Transformation.cost s.transformations
  else if body.geoMatch.isSome || body.ipSet.isSome then 1
  else if let some s := body.managedGroup then managedCapacity s.name
  else if body.rateBased.isSome then 2
  else if let some s := body.sizeConstraint then 1 + Transformation.cost s.transformations
  else if let some s := body.sqlInjection then 20 + Transformation.cost s.transformations
  else if let some s := body.crossSiteScripting then 40 + Transformation.cost s.transformations
  else if let some s := body.patternSet then 25 + Transformation.cost s.transformations
  else if body.label.isSome then 1
  else if body.ruleGroup.isSome then 100
  else 0

end StatementBody

/-! ## Trees -/

namespace Statement

variable {β : Type} (f : StatementBody β → β)

mutual

/-- Replace every statement by what `f` makes of it once its inner statements
have been replaced. -/
def fold : Statement → β
  | ofBody ⟨byteMatch, geoMatch, ipSet, managedGroup, rateBased, conjunction, disjunction,
      negation, sizeConstraint, sqlInjection, crossSiteScripting, patternSet, label,
      ruleGroup⟩ =>
    f ⟨byteMatch, geoMatch, ipSet, foldManaged managedGroup, foldRate rateBased,
      foldList conjunction, foldList disjunction, foldNegation negation, sizeConstraint,
      sqlInjection, crossSiteScripting, patternSet, label, ruleGroup⟩

/-- Replace the statement inside a managed group. -/
def foldManaged : Option (ManagedGroup Statement) → Option (ManagedGroup β)
  | none => none
  | some ⟨name, vendorName, version, overrides, scopeDown⟩ =>
    some ⟨name, vendorName, version, overrides, foldOption scopeDown⟩

/-- Replace the statement inside a rate limit. -/
def foldRate : Option (RateBased Statement) → Option (RateBased β)
  | none => none
  | some ⟨limit, aggregateKeyType, evaluationWindow, scopeDown⟩ =>
    some ⟨limit, aggregateKeyType, evaluationWindow, foldOption scopeDown⟩

/-- Replace the statements that are combined. -/
def foldList : Option (StatementList Statement) → Option (StatementList β)
  | none => none
  | some ⟨statements⟩ => some ⟨foldItems statements⟩

/-- Replace the statement that is negated. -/
def foldNegation : Option (Negation Statement) → Option (Negation β)
  | none => none
  | some ⟨statement⟩ => some ⟨fold statement⟩

/-- Replace a statement that may be absent. -/
def foldOption : Option Statement → Option β
  | none => none
  | some statement => some (fold statement)

/-- Replace each statement of a list. -/
def foldItems : List Statement → List β
  | [] => []
  | statement :: rest => fold statement :: foldItems rest

end

/-- The root of a tree. -/
def body : Statement → StatementBody Statement
  | ofBody body => body

/-- The kinds that are set. -/
def kinds (statement : Statement) : List String :=
  statement.body.presence.present

/-- The units that a statement takes with all its inner statements, counted in
32 bits. -/
def capacity (statement : Statement) : UInt32 :=
  statement.fold fun body => body.ownCapacity + body.children.foldr (· + ·) 0

/-- The managed groups that a tree uses, each as vendor and name. -/
def managedGroups (statement : Statement) : List String :=
  statement.fold fun (body : StatementBody (List String)) =>
    body.managedGroup.toList.map (fun group => s!"{group.vendorName}/{group.name}") ++
      body.children.flatten

/-- Whether a tree holds a rate limit. -/
def hasRateLimit (statement : Statement) : Bool :=
  statement.fold fun (body : StatementBody Bool) =>
    body.rateBased.isSome || body.children.any id

end Statement

/-! ## Reading and writing -/

/-- How a text match is written. -/
def ByteMatch.record : JsonRecord ByteMatch where
  name := "ByteMatchStatement"
  types := _
  fields :=
    .cons (.required "search_string" .text) <|
    .cons (.required "positional_constraint" .text) <|
    .cons (.required "field_to_match" FieldToMatch.record.codec) <|
    .cons (.requiredList "text_transformation" Transformation.record.codec) .nil
  build := fun (searchString, positionalConstraint, fieldToMatch, transformations, ()) =>
    { searchString, positionalConstraint, fieldToMatch, transformations }
  row s := (s.searchString, s.positionalConstraint, s.fieldToMatch, s.transformations, ())

/-- How a match of countries is written. -/
def GeoMatch.record : JsonRecord GeoMatch where
  name := "GeoMatchStatement"
  types := _
  fields := .cons (.requiredList "country_codes" .text) .nil
  build := fun (countryCodes, ()) => { countryCodes }
  row s := (s.countryCodes, ())

/-- How a reference to a set of addresses is written. -/
def IpSetReference.record : JsonRecord IpSetReference where
  name := "IpSetReferenceStatement"
  types := _
  fields := .cons (.required "arn" .text) .nil
  build := fun (arn, ()) => { arn }
  row s := (s.arn, ())

/-- How a managed group is written. -/
def ManagedGroup.record {σ : Type} (inner : JsonCodec σ) : JsonRecord (ManagedGroup σ) where
  name := "ManagedRuleGroupStatement"
  types := _
  fields :=
    .cons (.required "name" .text) <|
    .cons (.required "vendor_name" .text) <|
    .cons (.optional "version" .text) <|
    .cons (.listed "rule_action_override" RuleOverride.record.codec) <|
    .cons (.optional "scope_down_statement" inner) .nil
  build := fun (name, vendorName, version, overrides, scopeDown, ()) =>
    { name, vendorName, version, overrides, scopeDown }
  row s := (s.name, s.vendorName, s.version, s.overrides, s.scopeDown, ())

/-- How a rate limit is written. -/
def RateBased.record {σ : Type} (inner : JsonCodec σ) : JsonRecord (RateBased σ) where
  name := "RateBasedStatement"
  types := _
  fields :=
    .cons (.required "limit" .uint64) <|
    .cons (.defaulted "aggregate_key_type" .text "IP") <|
    .cons (.optional "evaluation_window_sec" .uint32) <|
    .cons (.optional "scope_down_statement" inner) .nil
  build := fun (limit, aggregateKeyType, evaluationWindow, scopeDown, ()) =>
    { limit, aggregateKeyType, evaluationWindow, scopeDown }
  row s := (s.limit, s.aggregateKeyType, s.evaluationWindow, s.scopeDown, ())

/-- How combined statements are written. -/
def StatementList.record {σ : Type} (inner : JsonCodec σ) : JsonRecord (StatementList σ) where
  name := "StatementList"
  types := _
  fields := .cons (.requiredList "statement" inner) .nil
  build := fun (statements, ()) => { statements }
  row s := (s.statements, ())

/-- How a negated statement is written. -/
def Negation.record {σ : Type} (inner : JsonCodec σ) : JsonRecord (Negation σ) where
  name := "NotStatement"
  types := _
  fields := .cons (.required "statement" inner) .nil
  build := fun (statement, ()) => { statement }
  row s := (s.statement, ())

/-- How a comparison of sizes is written. -/
def SizeConstraint.record : JsonRecord SizeConstraint where
  name := "SizeConstraintStatement"
  types := _
  fields :=
    .cons (.required "comparison_operator" .text) <|
    .cons (.required "size" .uint64) <|
    .cons (.required "field_to_match" FieldToMatch.record.codec) <|
    .cons (.requiredList "text_transformation" Transformation.record.codec) .nil
  build := fun (comparisonOperator, size, fieldToMatch, transformations, ()) =>
    { comparisonOperator, size, fieldToMatch, transformations }
  row s := (s.comparisonOperator, s.size, s.fieldToMatch, s.transformations, ())

/-- How a search for attacks is written. -/
def AttackMatch.record : JsonRecord AttackMatch where
  name := "MatchStatement"
  types := _
  fields :=
    .cons (.required "field_to_match" FieldToMatch.record.codec) <|
    .cons (.requiredList "text_transformation" Transformation.record.codec) .nil
  build := fun (fieldToMatch, transformations, ()) => { fieldToMatch, transformations }
  row s := (s.fieldToMatch, s.transformations, ())

/-- How a reference to a set of expressions is written. -/
def PatternSetReference.record : JsonRecord PatternSetReference where
  name := "RegexPatternSetReferenceStatement"
  types := _
  fields :=
    .cons (.required "arn" .text) <|
    .cons (.required "field_to_match" FieldToMatch.record.codec) <|
    .cons (.requiredList "text_transformation" Transformation.record.codec) .nil
  build := fun (arn, fieldToMatch, transformations, ()) =>
    { arn, fieldToMatch, transformations }
  row s := (s.arn, s.fieldToMatch, s.transformations, ())

/-- How a match of labels is written. -/
def LabelMatch.record : JsonRecord LabelMatch where
  name := "LabelMatchStatement"
  types := _
  fields :=
    .cons (.required "scope" .text) <|
    .cons (.required "key" .text) .nil
  build := fun (scope, key, ()) => { scope, key }
  row s := (s.scope, s.key, ())

/-- How a reference to a group of rules is written. -/
def RuleGroupReference.record : JsonRecord RuleGroupReference where
  name := "RuleGroupReferenceStatement"
  types := _
  fields :=
    .cons (.required "arn" .text) <|
    .cons (.listed "rule_action_override" RuleOverride.record.codec) .nil
  build := fun (arn, overrides, ()) => { arn, overrides }
  row s := (s.arn, s.overrides, ())

/-- How a statement is written, given how its inner statements are. -/
def StatementBody.record {σ : Type} (inner : JsonCodec σ) : JsonRecord (StatementBody σ) where
  name := "Statement"
  types := _
  fields :=
    .cons (.optionalLast "byte_match_statement" ByteMatch.record.codec) <|
    .cons (.optionalLast "geo_match_statement" GeoMatch.record.codec) <|
    .cons (.optionalLast "ip_set_reference_statement" IpSetReference.record.codec) <|
    .cons (.optionalLast "managed_rule_group_statement" (ManagedGroup.record inner).codec) <|
    .cons (.optionalLast "rate_based_statement" (RateBased.record inner).codec) <|
    .cons (.optionalLast "and_statement" (StatementList.record inner).codec) <|
    .cons (.optionalLast "or_statement" (StatementList.record inner).codec) <|
    .cons (.optionalLast "not_statement" (Negation.record inner).codec) <|
    .cons (.optionalLast "size_constraint_statement" SizeConstraint.record.codec) <|
    .cons (.optionalLast "sqli_match_statement" AttackMatch.record.codec) <|
    .cons (.optionalLast "xss_match_statement" AttackMatch.record.codec) <|
    .cons (.optionalLast "regex_pattern_set_reference_statement"
      PatternSetReference.record.codec) <|
    .cons (.optionalLast "label_match_statement" LabelMatch.record.codec) <|
    .cons (.optionalLast "rule_group_reference_statement" RuleGroupReference.record.codec) .nil
  build := fun (byteMatch, geoMatch, ipSet, managedGroup, rateBased, conjunction, disjunction,
      negation, sizeConstraint, sqlInjection, crossSiteScripting, patternSet, label,
      ruleGroup, ()) =>
    { byteMatch, geoMatch, ipSet, managedGroup, rateBased, conjunction, disjunction, negation,
      sizeConstraint, sqlInjection, crossSiteScripting, patternSet, label, ruleGroup }
  row s := (s.byteMatch, s.geoMatch, s.ipSet, s.managedGroup, s.rateBased, s.conjunction,
    s.disjunction, s.negation, s.sizeConstraint, s.sqlInjection, s.crossSiteScripting,
    s.patternSet, s.label, s.ruleGroup, ())

namespace Statement

/-- A tree as JSON. -/
def write (statement : Statement) : Json :=
  statement.fold (StatementBody.record ⟨.ok, id⟩).write

/-- Read a tree from a value that is nested at most as deep as the first
argument says; a value without depth is no statement. -/
def readWithin : Nat → Json → Except DecodeError Statement
  | 0, value => .error (.mismatch value "struct Statement")
  | depth + 1, value => do
    return .ofBody (← (StatementBody.record ⟨readWithin depth, write⟩).read value)

/-- Read a tree. -/
def read (value : Json) : Except DecodeError Statement :=
  readWithin value.depth value

/-- How trees are written. -/
def codec : JsonCodec Statement :=
  ⟨read, write⟩

end Statement

end InfraSynth.Aws.WebAcl

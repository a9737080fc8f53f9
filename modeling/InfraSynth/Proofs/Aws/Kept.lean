import InfraSynth.Proofs.Aws.Layout
import InfraSynth.Proofs.Aws.Written

/-!
# Attributes reappear in the blocks of resources

Nothing is lost between the attributes that were given and the block that is
written for them.

## Strategy

For each record of the attributes a lemma goes through its fields and says that
every one of them keeps what the layout says it holds, by the laws of codecs and
fields and the lemmas about the records inside.  Statements are read to a depth, so
for them the lemma is an induction on the depth, with the record of a single
statement as its step.
-/

namespace InfraSynth.Aws

/-! ## Policies -/

theorem PolicyDocument.keeps : PolicyDocument.codec.Keeps layout .document := by
  intro json policy hkeys _ hread
  cases json with
  | string text =>
      simp only [codec] at hread
      split at hread
      · rename_i value hparse
        cases hread
        exact .document (.text hparse) fun hdepth hnumbers =>
          Json.parse_compact hdepth hnumbers (Json.distinctKeys_of_parse hparse)
      · cases hread
  | object entries =>
      cases hread
      exact .document (.value entries) fun hdepth hnumbers =>
        Json.parse_compact hdepth hnumbers hkeys
  | null | bool _ | number _ | array _ => cases hread

theorem IamPolicy.keeps : IamPolicy.record.codec.Keeps layout (.struct .iamPolicy) := by
  refine .record (by decide) (fun _ => rfl) ?_
  repeat refine .cons (by simp [Structure.fields, List.lookup_cons, PolicyDocument.keeps]) ?_
  exact .nil

theorem InlinePolicy.keeps : InlinePolicy.record.codec.Keeps layout (.struct .inlinePolicy) := by
  refine .record (by decide) (fun _ => rfl) ?_
  repeat refine .cons (by simp [Structure.fields, List.lookup_cons, PolicyDocument.keeps]) ?_
  exact .nil

theorem IamRole.keeps : IamRole.record.codec.Keeps layout (.struct .iamRole) := by
  refine .record (by decide) (fun _ => rfl) ?_
  repeat refine .cons (by simp [Structure.fields, List.lookup_cons, PolicyDocument.keeps,
    InlinePolicy.keeps]) ?_
  exact .nil

/-! ## Target groups -/

theorem HealthCheck.keeps : HealthCheck.record.codec.Keeps layout (.struct .healthCheck) := by
  refine .record (by decide) (fun _ => rfl) ?_
  repeat refine .cons (by simp [Structure.fields, List.lookup_cons]) ?_
  exact .nil

theorem Stickiness.keeps : Stickiness.record.codec.Keeps layout (.struct .stickiness) := by
  refine .record (by decide) (fun _ => rfl) ?_
  repeat refine .cons (by simp [Structure.fields, List.lookup_cons]) ?_
  exact .nil

theorem TargetGroup.keeps : TargetGroup.record.codec.Keeps layout (.struct .targetGroup) := by
  refine .record (by decide) (fun _ => rfl) ?_
  repeat refine .cons (by simp [Structure.fields, List.lookup_cons, HealthCheck.keeps,
    Stickiness.keeps]) ?_
  exact .nil

/-! ## Alarms -/

theorem QueryMetric.keeps : QueryMetric.record.codec.Keeps layout (.struct .queryMetric) := by
  refine .record (by decide) (fun _ => rfl) ?_
  repeat refine .cons (by simp [Structure.fields, List.lookup_cons]) ?_
  exact .nil

theorem MetricQuery.keeps : MetricQuery.record.codec.Keeps layout (.struct .metricQuery) := by
  refine .record (by decide) (fun _ => rfl) ?_
  repeat refine .cons (by simp [Structure.fields, List.lookup_cons, QueryMetric.keeps]) ?_
  exact .nil

theorem MetricAlarm.keeps : MetricAlarm.record.codec.Keeps layout (.struct .metricAlarm) := by
  refine .record (by decide) (fun _ => rfl) ?_
  repeat refine .cons (by simp [Structure.fields, List.lookup_cons, MetricQuery.keeps]) ?_
  exact .nil

/-! ## Buckets and networks -/

theorem Bucket.keeps : Bucket.record.codec.Keeps layout (.struct .tagged) := by
  refine .record (by decide) (fun _ => rfl) ?_
  repeat refine .cons (by simp [Structure.fields, List.lookup_cons]) ?_
  exact .nil

theorem Vpc.keeps : Vpc.record.codec.Keeps layout (.struct .vpc) := by
  refine .record (by decide) (fun _ => rfl) ?_
  repeat refine .cons (by simp [Structure.fields, List.lookup_cons]) ?_
  exact .nil

theorem Subnet.keeps : Subnet.record.codec.Keeps layout (.struct .tagged) := by
  refine .record (by decide) (fun _ => rfl) ?_
  repeat refine .cons (by simp [Structure.fields, List.lookup_cons]) ?_
  exact .nil

theorem SecurityGroupRule.keeps : SecurityGroupRule.record.codec.Keeps layout (.struct .flat) := by
  refine .record (by decide) (fun _ => rfl) ?_
  repeat refine .cons (by simp [Structure.fields]) ?_
  exact .nil

theorem SecurityGroup.keeps : SecurityGroup.record.codec.Keeps layout (.struct .securityGroup) := by
  refine .record (by decide) (fun _ => rfl) ?_
  repeat refine .cons (by simp [Structure.fields, List.lookup_cons, SecurityGroupRule.keeps]) ?_
  exact .nil

/-! ## Web access lists -/

namespace WebAcl

theorem EmptyBlock.keeps : EmptyBlock.record.codec.Keeps layout (.struct .flat) :=
  .record (by decide) (fun _ => rfl) .nil

theorem CustomResponse.keeps : CustomResponse.record.codec.Keeps layout (.struct .flat) := by
  refine .record (by decide) (fun _ => rfl) ?_
  repeat refine .cons (by simp [Structure.fields]) ?_
  exact .nil

theorem BlockAction.keeps : BlockAction.record.codec.Keeps layout (.struct .blockAction) := by
  refine .record (by decide) (fun _ => rfl) ?_
  repeat refine .cons (by simp [Structure.fields, CustomResponse.keeps]) ?_
  exact .nil

theorem RuleAction.keeps : RuleAction.record.codec.Keeps layout (.struct .ruleAction) := by
  refine .record (by decide) (fun _ => rfl) ?_
  repeat refine .cons (by simp [Structure.fields, List.lookup_cons, EmptyBlock.keeps,
    BlockAction.keeps]) ?_
  exact .nil

theorem RuleOverride.keeps : RuleOverride.record.codec.Keeps layout (.struct .ruleOverride) := by
  refine .record (by decide) (fun _ => rfl) ?_
  repeat refine .cons (by simp [Structure.fields, List.lookup_cons, RuleAction.keeps]) ?_
  exact .nil

theorem DefaultAction.keeps : DefaultAction.record.codec.Keeps layout (.struct .defaultAction) := by
  refine .record (by decide) (fun _ => rfl) ?_
  repeat refine .cons (by simp [Structure.fields, List.lookup_cons, EmptyBlock.keeps,
    BlockAction.keeps]) ?_
  exact .nil

theorem OverrideAction.keeps :
    OverrideAction.record.codec.Keeps layout (.struct .overrideAction) := by
  refine .record (by decide) (fun _ => rfl) ?_
  repeat refine .cons (by simp [Structure.fields, List.lookup_cons, EmptyBlock.keeps]) ?_
  exact .nil

theorem NamedField.keeps : NamedField.record.codec.Keeps layout (.struct .flat) := by
  refine .record (by decide) (fun _ => rfl) ?_
  repeat refine .cons (by simp [Structure.fields]) ?_
  exact .nil

theorem FieldToMatch.keeps : FieldToMatch.record.codec.Keeps layout (.struct .fieldToMatch) := by
  refine .record (by decide) (fun _ => rfl) ?_
  repeat refine .cons (by simp [Structure.fields, List.lookup_cons, EmptyBlock.keeps,
    NamedField.keeps]) ?_
  exact .nil

theorem Transformation.keeps : Transformation.record.codec.Keeps layout (.struct .flat) := by
  refine .record (by decide) (fun _ => rfl) ?_
  repeat refine .cons (by simp [Structure.fields]) ?_
  exact .nil

theorem ByteMatch.keeps : ByteMatch.record.codec.Keeps layout (.struct .inspection) := by
  refine .record (by decide) (fun _ => rfl) ?_
  repeat refine .cons (by simp [Structure.fields, List.lookup_cons, FieldToMatch.keeps,
    Transformation.keeps]) ?_
  exact .nil

theorem GeoMatch.keeps : GeoMatch.record.codec.Keeps layout (.struct .flat) := by
  refine .record (by decide) (fun _ => rfl) ?_
  repeat refine .cons (by simp [Structure.fields]) ?_
  exact .nil

theorem IpSetReference.keeps : IpSetReference.record.codec.Keeps layout (.struct .flat) := by
  refine .record (by decide) (fun _ => rfl) ?_
  repeat refine .cons (by simp [Structure.fields]) ?_
  exact .nil

theorem SizeConstraint.keeps : SizeConstraint.record.codec.Keeps layout (.struct .inspection) := by
  refine .record (by decide) (fun _ => rfl) ?_
  repeat refine .cons (by simp [Structure.fields, List.lookup_cons, FieldToMatch.keeps,
    Transformation.keeps]) ?_
  exact .nil

theorem AttackMatch.keeps : AttackMatch.record.codec.Keeps layout (.struct .inspection) := by
  refine .record (by decide) (fun _ => rfl) ?_
  repeat refine .cons (by simp [Structure.fields, List.lookup_cons, FieldToMatch.keeps,
    Transformation.keeps]) ?_
  exact .nil

theorem PatternSetReference.keeps :
    PatternSetReference.record.codec.Keeps layout (.struct .inspection) := by
  refine .record (by decide) (fun _ => rfl) ?_
  repeat refine .cons (by simp [Structure.fields, List.lookup_cons, FieldToMatch.keeps,
    Transformation.keeps]) ?_
  exact .nil

theorem LabelMatch.keeps : LabelMatch.record.codec.Keeps layout (.struct .flat) := by
  refine .record (by decide) (fun _ => rfl) ?_
  repeat refine .cons (by simp [Structure.fields]) ?_
  exact .nil

theorem RuleGroupReference.keeps :
    RuleGroupReference.record.codec.Keeps layout (.struct .ruleGroup) := by
  refine .record (by decide) (fun _ => rfl) ?_
  repeat refine .cons (by simp [Structure.fields, List.lookup_cons, RuleOverride.keeps]) ?_
  exact .nil

section Inner

variable {σ : Type} {inner : JsonCodec σ}

/-! The names of the fields do not depend on what the inner statements are. -/

theorem ManagedGroup.keeps (h : inner.Keeps layout (.struct .statement)) :
    (ManagedGroup.record inner).codec.Keeps layout (.struct .managedGroup) := by
  have hmatches : (ManagedGroup.record inner).fields.Matches layout .managedGroup :=
    show (ManagedGroup.record Codec.text).fields.Matches layout .managedGroup by decide
  refine .record hmatches (fun _ => rfl) ?_
  repeat refine .cons (by simp [Structure.fields, List.lookup_cons, RuleOverride.keeps, h]) ?_
  exact .nil

theorem RateBased.keeps (h : inner.Keeps layout (.struct .statement)) :
    (RateBased.record inner).codec.Keeps layout (.struct .rateBased) := by
  have hmatches : (RateBased.record inner).fields.Matches layout .rateBased :=
    show (RateBased.record Codec.text).fields.Matches layout .rateBased by decide
  refine .record hmatches (fun _ => rfl) ?_
  repeat refine .cons (by simp [Structure.fields, List.lookup_cons, h]) ?_
  exact .nil

theorem StatementList.keeps (h : inner.Keeps layout (.struct .statement)) :
    (StatementList.record inner).codec.Keeps layout (.struct .statementList) := by
  have hmatches : (StatementList.record inner).fields.Matches layout .statementList :=
    show (StatementList.record Codec.text).fields.Matches layout .statementList by decide
  refine .record hmatches (fun _ => rfl) ?_
  repeat refine .cons (by simp [Structure.fields, h]) ?_
  exact .nil

theorem Negation.keeps (h : inner.Keeps layout (.struct .statement)) :
    (Negation.record inner).codec.Keeps layout (.struct .negation) := by
  have hmatches : (Negation.record inner).fields.Matches layout .negation :=
    show (Negation.record Codec.text).fields.Matches layout .negation by decide
  refine .record hmatches (fun _ => rfl) ?_
  repeat refine .cons (by simp [Structure.fields, h]) ?_
  exact .nil

theorem StatementBody.keeps (h : inner.Keeps layout (.struct .statement)) :
    (StatementBody.record inner).codec.Keeps layout (.struct .statement) := by
  have hmatches : (StatementBody.record inner).fields.Matches layout .statement :=
    show (StatementBody.record Codec.text).fields.Matches layout .statement by decide
  refine .record hmatches (fun _ => rfl) ?_
  repeat refine .cons (by simp [Structure.fields, List.lookup_cons, ByteMatch.keeps, GeoMatch.keeps,
    IpSetReference.keeps, ManagedGroup.keeps h, RateBased.keeps h, StatementList.keeps h,
    Negation.keeps h, SizeConstraint.keeps, AttackMatch.keeps, PatternSetReference.keeps,
    LabelMatch.keeps, RuleGroupReference.keeps]) ?_
  exact .nil

end Inner

/-- Statements that are read to some depth keep what was given to that depth. -/
theorem Statement.keeps_readWithin (depth : Nat) :
    Codec.Keeps ⟨Statement.readWithin depth, Statement.write⟩ layout (.struct .statement) := by
  induction depth with
  | zero =>
      intro json statement _ _ hread
      cases hread
  | succ depth ih =>
      intro json statement hkeys hgiven hread
      obtain ⟨body, hbody, h⟩ := Outcome.bind_eq_ok_iff.mp hread
      cases h
      show layout.Kept _ json (Statement.ofBody body).write
      rw [Statement.write_ofBody body (Statement.readWithin depth)]
      exact StatementBody.keeps ih json body hkeys hgiven hbody

theorem Statement.keeps : Statement.codec.Keeps layout (.struct .statement) :=
  fun json => Statement.keeps_readWithin json.depth json

theorem Visibility.keeps : Visibility.record.codec.Keeps layout (.struct .flat) := by
  refine .record (by decide) (fun _ => rfl) ?_
  repeat refine .cons (by simp [Structure.fields]) ?_
  exact .nil

theorem Label.keeps : Label.record.codec.Keeps layout (.struct .flat) := by
  refine .record (by decide) (fun _ => rfl) ?_
  repeat refine .cons (by simp [Structure.fields]) ?_
  exact .nil

theorem Rule.keeps : Rule.record.codec.Keeps layout (.struct .rule) := by
  refine .record (by decide) (fun _ => rfl) ?_
  repeat refine .cons (by simp [Structure.fields, List.lookup_cons, RuleAction.keeps,
    OverrideAction.keeps, Statement.keeps, Visibility.keeps, Label.keeps]) ?_
  exact .nil

theorem keeps : WebAcl.record.codec.Keeps layout (.struct .webAcl) := by
  -- the rules may be given under another name as well, which makes no difference
  have hrules : (Field.listed "rule" Rule.record.codec).Keeps layout (.list .rule) :=
    .listed (.list Rule.keeps)
  refine .record (by decide) (fun _ => rfl) ?_
  repeat refine .cons (by first | exact hrules | simp [Structure.fields, List.lookup_cons,
    DefaultAction.keeps, Visibility.keeps]) ?_
  exact .nil

end WebAcl

/-! ## All types -/

namespace ResourceType

theorem keeps (type : ResourceType) : (Resource.record : JsonRecord type.Attributes).codec.Keeps
    layout (.struct type.root) := by
  cases type with
  | iamRole => exact IamRole.keeps
  | iamPolicy => exact IamPolicy.keeps
  | targetGroup => exact TargetGroup.keeps
  | webAcl => exact WebAcl.keeps
  | metricAlarm => exact MetricAlarm.keeps
  | bucket => exact Bucket.keeps
  | vpc => exact Vpc.keeps
  | subnet => exact Subnet.keeps
  | securityGroup => exact SecurityGroup.keeps

/-- **Every entry of the attributes that were given reappears in the block of the
resource**, at every depth, under the name of its field and with its value;
only null and lists and maps without entries may be missing.  Structures are given
as objects and choices as texts, and no object has a key twice. -/
theorem kept_block (type : ResourceType) {value : Json} {attributes : type.Attributes}
    (hkeys : value.DistinctKeys) (hgiven : layout.Given (.struct type.root) value)
    (hread : Resource.ofJson value = .ok attributes) :
    layout.Kept (.struct type.root) value (Resource.block attributes).toJson := by
  obtain ⟨hread, -⟩ := Resource.ofJson_eq_ok_iff.mp hread
  exact type.keeps value attributes hkeys hgiven hread

/-- Attributes of a policy with a null and with tags that are not sorted. -/
def listingValue : Json :=
  .object [
    ("name", "list"),
    ("description", .null),
    ("policy", listingDocument),
    ("tags", .object [("team", "network"), ("env", "test")])]

theorem kept_block_listingValue : layout.Kept (.struct .iamPolicy) listingValue
    (Resource.block { listingPolicy with
      tags := .ofEntries [("team", "network"), ("env", "test")] }).toJson := by
  have hkeys : listingValue.DistinctKeys := by
    simp [listingValue, listingDocument, Json.DistinctKeys, Json.nat, Entries.keys, or_imp,
      forall_and]
  have hgiven : layout.Given (.struct .iamPolicy) listingValue := by
    refine .struct fun entry hentry => ?_
    simp only [List.mem_cons, List.not_mem_nil, or_false] at hentry
    rcases hentry with rfl | rfl | rfl | rfl
    · exact .plain _
    · exact .null _
    · exact .document _
    · exact .textMap _
  exact kept_block .iamPolicy hkeys hgiven
    (Resource.ofJson_eq_ok_iff.mpr ⟨by rfl, by decide +kernel⟩)

end ResourceType

end InfraSynth.Aws

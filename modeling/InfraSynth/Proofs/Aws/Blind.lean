import InfraSynth.Aws.ResourceType
import InfraSynth.Proofs.Decode.Reordered

/-!
# Attributes that do not depend on the order of keys

Seven of the nine types of attributes hold nothing in which the order of keys is
kept, so their records are blind to it: each of them goes through its fields, and
the structures among these are blind themselves.

Statements are read to a depth, which is that of the value they are read from.  It is
the same whatever the order of keys, and at each depth the record of a single
statement is blind if its inner statements are, `Statement.blind_readWithin`.
-/

namespace InfraSynth.Aws

/-! ## Target groups, alarms, buckets and networks -/

instance : HealthCheck.record.codec.Blind := by
  unfold HealthCheck.record
  infer_instance

instance : Stickiness.record.codec.Blind := by
  unfold Stickiness.record
  infer_instance

instance : TargetGroup.record.codec.Blind := by
  unfold TargetGroup.record
  infer_instance

instance : QueryMetric.record.codec.Blind := by
  unfold QueryMetric.record
  infer_instance

instance : MetricQuery.record.codec.Blind := by
  unfold MetricQuery.record
  infer_instance

instance : MetricAlarm.record.codec.Blind := by
  unfold MetricAlarm.record
  infer_instance

instance : Bucket.record.codec.Blind := by
  unfold Bucket.record
  infer_instance

instance : Vpc.record.codec.Blind := by
  unfold Vpc.record
  infer_instance

instance : Subnet.record.codec.Blind := by
  unfold Subnet.record
  infer_instance

instance : SecurityGroupRule.record.codec.Blind := by
  unfold SecurityGroupRule.record
  infer_instance

instance : SecurityGroup.record.codec.Blind := by
  unfold SecurityGroup.record
  infer_instance

/-! ## Web access lists -/

namespace WebAcl

instance : EmptyBlock.record.codec.Blind := by
  unfold EmptyBlock.record
  infer_instance

instance : CustomResponse.record.codec.Blind := by
  unfold CustomResponse.record
  infer_instance

instance : BlockAction.record.codec.Blind := by
  unfold BlockAction.record
  infer_instance

instance : RuleAction.record.codec.Blind := by
  unfold RuleAction.record
  infer_instance

instance : RuleOverride.record.codec.Blind := by
  unfold RuleOverride.record
  infer_instance

instance : DefaultAction.record.codec.Blind := by
  unfold DefaultAction.record
  infer_instance

instance : OverrideAction.record.codec.Blind := by
  unfold OverrideAction.record
  infer_instance

instance : NamedField.record.codec.Blind := by
  unfold NamedField.record
  infer_instance

instance : FieldToMatch.record.codec.Blind := by
  unfold FieldToMatch.record
  infer_instance

instance : Transformation.record.codec.Blind := by
  unfold Transformation.record
  infer_instance

instance : ByteMatch.record.codec.Blind := by
  unfold ByteMatch.record
  infer_instance

instance : GeoMatch.record.codec.Blind := by
  unfold GeoMatch.record
  infer_instance

instance : IpSetReference.record.codec.Blind := by
  unfold IpSetReference.record
  infer_instance

instance : SizeConstraint.record.codec.Blind := by
  unfold SizeConstraint.record
  infer_instance

instance : AttackMatch.record.codec.Blind := by
  unfold AttackMatch.record
  infer_instance

instance : PatternSetReference.record.codec.Blind := by
  unfold PatternSetReference.record
  infer_instance

instance : LabelMatch.record.codec.Blind := by
  unfold LabelMatch.record
  infer_instance

instance : RuleGroupReference.record.codec.Blind := by
  unfold RuleGroupReference.record
  infer_instance

section Inner

variable {σ : Type} {inner : JsonCodec σ} [inner.Blind]

instance : (ManagedGroup.record inner).codec.Blind := by
  unfold ManagedGroup.record
  infer_instance

instance : (RateBased.record inner).codec.Blind := by
  unfold RateBased.record
  infer_instance

instance : (StatementList.record inner).codec.Blind := by
  unfold StatementList.record
  infer_instance

instance : (Negation.record inner).codec.Blind := by
  unfold Negation.record
  infer_instance

instance : (StatementBody.record inner).codec.Blind := by
  unfold StatementBody.record
  infer_instance

end Inner

/-- Statements that are read to some depth are read alike. -/
theorem Statement.blind_readWithin (depth : Nat) :
    Codec.Blind ⟨Statement.readWithin depth, Statement.write⟩ := by
  induction depth with
  | zero => exact ⟨fun _ _ _ => .error _ _⟩
  | succ depth ih =>
      let inner : JsonCodec Statement := ⟨Statement.readWithin depth, Statement.write⟩
      have hbody : (StatementBody.record inner).codec.Blind := inferInstance
      refine ⟨fun value other hvalue => ?_⟩
      exact (hbody.respects value other hvalue).bind_pure fun _ _ => congrArg Statement.ofBody

instance : Statement.codec.Blind := by
  refine ⟨fun value other hvalue => ?_⟩
  have hdepth := hvalue.sameUpToOrder.depth_eq
  show Outcome.Agree Eq (Statement.readWithin value.depth value)
    (Statement.readWithin other.depth other)
  rw [← hdepth]
  exact (Statement.blind_readWithin value.depth).respects value other hvalue

instance : Visibility.record.codec.Blind := by
  unfold Visibility.record
  infer_instance

instance : Label.record.codec.Blind := by
  unfold Label.record
  infer_instance

instance : Rule.record.codec.Blind := by
  unfold Rule.record
  infer_instance

end WebAcl

instance : WebAcl.record.codec.Blind := by
  unfold WebAcl.record
  infer_instance

end InfraSynth.Aws

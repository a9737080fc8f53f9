import InfraSynth.Aws.ResourceType
import InfraSynth.Proofs.Aws.Statement.Written
import InfraSynth.Proofs.Decode.Supply
import InfraSynth.Proofs.Resource

/-!
# Resources read back from their blocks

The block of a resource, read as attributes, gives the attributes that it was
made from.  For each of the nine types this is a lemma about its record: the fields of
which a fact has to be known are stated first, and the others follow from the laws of
codecs and fields.  What the attributes have passed is needed only for the statements of
a web access list.

Policies are written as texts.  They read back if they are not nested more
deeply than a reader goes and hold only numbers that read back themselves,
`PolicyDocument.ReadsBack`; that their keys are distinct follows from where they
were read from.
-/

namespace InfraSynth.Aws

/-! ## Policies -/

namespace PolicyDocument

/-- The document can be read from its text: it is not nested too deeply, and its
numbers read back from their own texts. -/
structure ReadsBack (policy : PolicyDocument) : Prop where
  depth : policy.value.depth ≤ Json.maxNesting
  numbers : policy.value.NumbersReadBack

theorem faithful {policy : PolicyDocument} (hreads : policy.ReadsBack)
    (hkeys : policy.value.DistinctKeys) : PolicyDocument.codec.Faithful policy := by
  refine ⟨?_, Json.noConfusion⟩
  have hparse := Json.parse_compact hreads.depth hreads.numbers hkeys
  simp only [codec, hparse]

/-- A document that is read from a value with distinct keys, or from a text, has
distinct keys. -/
theorem distinctKeys_of_read {json : Json} {policy : PolicyDocument} (hkeys : json.DistinctKeys)
    (h : codec.read json = .ok policy) : policy.value.DistinctKeys := by
  cases json with
  | string text =>
      simp only [codec] at h
      split at h
      · rename_i value hparse
        cases h
        exact Json.distinctKeys_of_parse hparse
      · cases h
  | object entries =>
      cases h
      exact hkeys
  | null | bool value | number value | array items => cases h

/-- A field that has to be given supplies documents with distinct keys. -/
theorem distinctKeys_of_supplies {name : String} {policy : PolicyDocument}
    (h : (Field.required name codec).Supplies policy) : policy.value.DistinctKeys := by
  rcases h with ⟨json, hkeys, hread⟩ | hdefault | hdefault
  · exact distinctKeys_of_read hkeys hread
  · cases hdefault
  · cases hdefault

end PolicyDocument

theorem IamPolicy.faithful {policy : IamPolicy} (hpolicy : policy.policy.ReadsBack)
    (hkeys : policy.policy.value.DistinctKeys) : IamPolicy.record.codec.Faithful policy := by
  have hdocument : PolicyDocument.codec.Faithful policy.policy :=
    PolicyDocument.faithful hpolicy hkeys
  refine .record (by decide) rfl ?_
  repeat refine .cons (by simp [hdocument]) ?_
  exact .nil

theorem IamPolicy.distinctKeys {json : Json} {policy : IamPolicy} (hkeys : json.DistinctKeys)
    (h : IamPolicy.record.read json = .ok policy) : policy.policy.value.DistinctKeys := by
  obtain ⟨row, rfl, -, -, -, -, hdocument, -⟩ := Record.supplies_read hkeys h
  exact PolicyDocument.distinctKeys_of_supplies hdocument

theorem InlinePolicy.faithful {inline : InlinePolicy} (hpolicy : inline.policy.ReadsBack)
    (hkeys : inline.policy.value.DistinctKeys) : InlinePolicy.record.codec.Faithful inline := by
  have hdocument : PolicyDocument.codec.Faithful inline.policy :=
    PolicyDocument.faithful hpolicy hkeys
  refine .record (by decide) rfl ?_
  repeat refine .cons (by simp [hdocument]) ?_
  exact .nil

theorem InlinePolicy.distinctKeys {json : Json} {inline : InlinePolicy}
    (hkeys : json.DistinctKeys) (h : InlinePolicy.record.read json = .ok inline) :
    inline.policy.value.DistinctKeys := by
  obtain ⟨row, rfl, -, hdocument, -⟩ := Record.supplies_read hkeys h
  exact PolicyDocument.distinctKeys_of_supplies hdocument

theorem IamRole.faithful {role : IamRole} (htrust : role.trustPolicy.ReadsBack)
    (htrustKeys : role.trustPolicy.value.DistinctKeys)
    (hinline : ∀ inline ∈ role.inlinePolicies,
      inline.policy.ReadsBack ∧ inline.policy.value.DistinctKeys) :
    IamRole.record.codec.Faithful role := by
  have hdocument : PolicyDocument.codec.Faithful role.trustPolicy :=
    PolicyDocument.faithful htrust htrustKeys
  have hpolicies : (Field.listed "inline_policy" InlinePolicy.record.codec).Faithful
      role.inlinePolicies := by
    refine .listed fun inline hmem => ?_
    obtain ⟨hreads, hkeys⟩ := hinline inline hmem
    exact InlinePolicy.faithful hreads hkeys
  refine .record (by decide) rfl ?_
  repeat refine .cons (by simp [hdocument, hpolicies]) ?_
  exact .nil

theorem IamRole.distinctKeys {json : Json} {role : IamRole} (hkeys : json.DistinctKeys)
    (h : IamRole.record.read json = .ok role) :
    role.trustPolicy.value.DistinctKeys ∧
      ∀ inline ∈ role.inlinePolicies, inline.policy.value.DistinctKeys := by
  obtain ⟨row, rfl, -, -, htrust, -, -, -, -, -, hinline, -⟩ := Record.supplies_read hkeys h
  refine ⟨PolicyDocument.distinctKeys_of_supplies htrust, fun inline hmem => ?_⟩
  obtain ⟨json, hjson, hread⟩ := Field.Supplies.exists_of_mem hinline hmem
  exact InlinePolicy.distinctKeys hjson hread

/-! ## Target groups -/

instance : Enumeration.Lawful TargetType := ⟨by intro x; cases x <;> rfl⟩
instance : Enumeration.Lawful Protocol := ⟨by intro x; cases x <;> rfl⟩
instance : Enumeration.Lawful ProtocolVersion := ⟨by intro x; cases x <;> rfl⟩
instance : Enumeration.Lawful StickinessType := ⟨by intro x; cases x <;> rfl⟩

theorem HealthCheck.faithful {check : HealthCheck} : HealthCheck.record.codec.Faithful check := by
  refine .record (by decide) rfl ?_
  repeat refine .cons (by simp) ?_
  exact .nil

theorem Stickiness.faithful {stickiness : Stickiness} :
    Stickiness.record.codec.Faithful stickiness := by
  refine .record (by decide) rfl ?_
  repeat refine .cons (by simp) ?_
  exact .nil

theorem TargetGroup.faithful {group : TargetGroup} : TargetGroup.record.codec.Faithful group := by
  refine .record (by decide) rfl ?_
  repeat refine .cons (by simp [HealthCheck.faithful, Stickiness.faithful]) ?_
  exact .nil

/-! ## Alarms -/

instance : Enumeration.Lawful Comparison := ⟨by intro x; cases x <;> rfl⟩
instance : Enumeration.Lawful Statistic := ⟨by intro x; cases x <;> rfl⟩
instance : Enumeration.Lawful MissingData := ⟨by intro x; cases x <;> rfl⟩

theorem QueryMetric.faithful {metric : QueryMetric} : QueryMetric.record.codec.Faithful metric := by
  refine .record (by decide) rfl ?_
  repeat refine .cons (by simp) ?_
  exact .nil

theorem MetricQuery.faithful {query : MetricQuery} : MetricQuery.record.codec.Faithful query := by
  refine .record (by decide) rfl ?_
  repeat refine .cons (by simp [QueryMetric.faithful]) ?_
  exact .nil

theorem MetricAlarm.faithful {alarm : MetricAlarm} : MetricAlarm.record.codec.Faithful alarm := by
  refine .record (by decide) rfl ?_
  repeat refine .cons (by simp [MetricQuery.faithful]) ?_
  exact .nil

/-! ## Buckets and networks -/

theorem Bucket.faithful {bucket : Bucket} : Bucket.record.codec.Faithful bucket := by
  refine .record (by decide) rfl ?_
  repeat refine .cons (by simp) ?_
  exact .nil

instance : Enumeration.Lawful Tenancy := ⟨by intro x; cases x <;> rfl⟩

theorem Vpc.faithful {vpc : Vpc} : Vpc.record.codec.Faithful vpc := by
  refine .record (by decide) rfl ?_
  repeat refine .cons (by simp) ?_
  exact .nil

theorem Subnet.faithful {subnet : Subnet} : Subnet.record.codec.Faithful subnet := by
  refine .record (by decide) rfl ?_
  repeat refine .cons (by simp) ?_
  exact .nil

theorem SecurityGroupRule.faithful {rule : SecurityGroupRule} :
    SecurityGroupRule.record.codec.Faithful rule := by
  refine .record (by decide) rfl ?_
  repeat refine .cons (by simp) ?_
  exact .nil

theorem SecurityGroup.faithful {group : SecurityGroup} :
    SecurityGroup.record.codec.Faithful group := by
  refine .record (by decide) rfl ?_
  repeat refine .cons (by simp [SecurityGroupRule.faithful]) ?_
  exact .nil

/-! ## Web access lists -/

namespace WebAcl

instance : Enumeration.Lawful Scope := ⟨by intro x; cases x <;> rfl⟩

theorem Visibility.faithful {config : Visibility} : Visibility.record.codec.Faithful config := by
  refine .record (by decide) rfl ?_
  repeat refine .cons (by simp) ?_
  exact .nil

theorem Label.faithful {label : Label} : Label.record.codec.Faithful label := by
  refine .record (by decide) rfl ?_
  repeat refine .cons (by simp) ?_
  exact .nil

theorem OverrideAction.faithful {action : OverrideAction} :
    OverrideAction.record.codec.Faithful action := by
  refine .record (by decide) rfl ?_
  repeat refine .cons (by simp [EmptyBlock.faithful]) ?_
  exact .nil

theorem DefaultAction.faithful {action : DefaultAction} :
    DefaultAction.record.codec.Faithful action := by
  refine .record (by decide) rfl ?_
  repeat refine .cons (by simp [EmptyBlock.faithful, BlockAction.faithful]) ?_
  exact .nil

theorem Rule.faithful {rule : Rule} {path : String} (hcheck : rule.check path = []) :
    Rule.record.codec.Faithful rule := by
  have hstatement : rule.statement.check (Path.field path "statement") .top = [] := by
    simp only [check, List.append_eq_nil_iff] at hcheck
    exact hcheck.1.1.2
  have hfaithful : Statement.codec.Faithful rule.statement := Statement.faithful hstatement
  refine .record (by decide) rfl ?_
  repeat refine .cons (by simp [hfaithful, RuleAction.faithful, OverrideAction.faithful,
    Visibility.faithful, Label.faithful]) ?_
  exact .nil

theorem faithful {acl : WebAcl} (hcheck : acl.violations = []) :
    WebAcl.record.codec.Faithful acl := by
  have hrules : (Field.listed "rule" Rule.record.codec).Faithful acl.rules := by
    refine .listed fun rule hrule => ?_
    -- the rule has passed its check, at the path of its index
    obtain ⟨i, hi, rfl⟩ := List.mem_iff_getElem.mp hrule
    simp only [violations, List.append_eq_nil_iff, Path.flatMapItems_eq_nil_iff] at hcheck
    obtain ⟨⟨⟨⟨-, hchecked⟩, -⟩, -⟩, -⟩ := hcheck
    exact Rule.faithful (hchecked i hi)
  refine .record (by decide) rfl ?_
  repeat refine .cons (by simp [hrules, DefaultAction.faithful, Visibility.faithful]) ?_
  exact .nil

end WebAcl

/-! ## All types -/

namespace ResourceType

/-- The policy documents in the attributes of a type. -/
def policies : (type : ResourceType) → type.Attributes → List PolicyDocument
  | iamRole, role => role.trustPolicy :: role.inlinePolicies.map (·.policy)
  | iamPolicy, policy => [policy.policy]
  | _, _ => []

/-- **The block of a resource that was read and passed its check is read and
passes its check, and gives the same attributes back.**  No object in the value
has a key twice, as in every value that is read from a text. -/
theorem ofJson_block (type : ResourceType) {value : Json} {attributes : type.Attributes}
    (hkeys : value.DistinctKeys) (hread : Resource.ofJson value = .ok attributes)
    (hpolicies : ∀ policy ∈ type.policies attributes, policy.ReadsBack) :
    Resource.ofJson (Resource.block attributes).toJson = .ok attributes := by
  obtain ⟨hread, hcheck⟩ := Resource.ofJson_eq_ok_iff.mp hread
  refine Resource.ofJson_eq_ok_iff.mpr ⟨?_, hcheck⟩
  have hfaithful : (Resource.record : JsonRecord type.Attributes).codec.Faithful attributes := by
    -- only policies depend on the value that was read, and only statements on the check
    cases type with
    | iamRole =>
        obtain ⟨htrust, hinline⟩ := List.forall_mem_cons.mp hpolicies
        obtain ⟨htrustKeys, hinlineKeys⟩ := IamRole.distinctKeys hkeys hread
        exact IamRole.faithful htrust htrustKeys fun inline h =>
          ⟨hinline _ (List.mem_map_of_mem h), hinlineKeys inline h⟩
    | iamPolicy =>
        exact IamPolicy.faithful (hpolicies _ (List.mem_cons_self ..))
          (IamPolicy.distinctKeys hkeys hread)
    | targetGroup => exact TargetGroup.faithful
    | webAcl => exact WebAcl.faithful hcheck
    | metricAlarm => exact MetricAlarm.faithful
    | bucket => exact Bucket.faithful
    | vpc => exact Vpc.faithful
    | subnet => exact Subnet.faithful
    | securityGroup => exact SecurityGroup.faithful
  exact hfaithful.read_write

/-- A document that limits how many keys a request lists. -/
def listingDocument : Json :=
  .object [
    ("Version", "2012-10-17"),
    ("Statement", .object [
      ("Effect", "Allow"),
      ("Action", "s3:List"),
      ("Resource", "*"),
      ("Condition", .object [("NumericLessThanEquals", .object [("s3:max-keys", .nat 10)])])])]

/-- The attributes of a policy with that document. -/
def listingPolicy : IamPolicy where
  name := some "list"
  nameStart := none
  path := "/"
  description := none
  policy := ⟨listingDocument⟩
  tags := .empty

theorem ofJson_block_listingPolicy :
    Resource.ofJson (Resource.block listingPolicy).toJson = .ok listingPolicy := by
  have hkeys : (Json.object [("name", "list"), ("policy", listingDocument)]).DistinctKeys := by
    simp [listingDocument, Json.DistinctKeys, Json.nat, Entries.keys]
  have hread : Resource.ofJson (.object [("name", "list"), ("policy", listingDocument)]) =
      .ok listingPolicy :=
    Resource.ofJson_eq_ok_iff.mpr ⟨by rfl, by decide +kernel⟩
  have hreads : listingPolicy.policy.ReadsBack := by
    refine ⟨by decide, ?_⟩
    simp [listingPolicy, listingDocument, Json.NumbersReadBack, Json.nat]
    rfl
  exact ofJson_block .iamPolicy hkeys hread (by simpa [policies] using hreads)

end ResourceType

end InfraSynth.Aws

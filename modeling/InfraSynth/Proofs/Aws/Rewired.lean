import InfraSynth.Aws.ResourceType
import InfraSynth.Proofs.Aws.Cidr
import InfraSynth.Proofs.Aws.Statement.Rewired
import InfraSynth.Proofs.Resource
import InfraSynth.Proofs.Synthesizer.References

/-!
# Attributes that name something else

Identifiers, resource names, blocks of addresses, zones and names of buckets may be
given as interpolations.  Attributes are rewired if one such value, in a field, in a
list or in a tree of statements, is replaced.  `ResourceType.validate_rewired` says
that an interpolation may take the place of any of them: accepted attributes stay
accepted, and the block differs at that position and nowhere else.

## Strategy

For each type, `Rewired` has a constructor for each place, and two lemmas are proved
by one case for each of these.  `violations_eq_nil` goes through the checks: the one
of the value lets interpolations pass, and the others do not look at the value, except
that the policies attached to a role must differ from each other.  `replacedAt_write`
finds the field that holds the value among the fields of the record.

## Main definitions

* `ResourceType.Rewired` is the relation between attributes of any type.
-/

namespace InfraSynth.Aws

open Interpolation (IsReference)

variable {old new : String} {position : Json.Position}

/-! ## Checks that let interpolations pass -/

section References

variable {field value : String} (h : IsReference value)

include h

theorem checkResourceId_of_isReference {kind : String} : checkResourceId field value kind = [] :=
  if_pos (Interpolation.isInterpolation_iff.mpr h)

theorem checkCidr_of_isReference {low high : Nat} : checkCidr field value low high = [] :=
  checkCidr_eq_nil_iff.mpr (.inl h)

theorem Bucket.checkName_of_isReference {low high : Nat} {pattern : Pattern} :
    checkName field value low high pattern = [] :=
  if_pos (Interpolation.isInterpolation_iff.mpr h)

end References

/-! ## Roles -/

namespace IamRole

/-- A role with another permissions boundary, or with another managed policy in the
place of one; the other one may not be attached already. -/
inductive Rewired (old new : String) : Json.Position → IamRole → IamRole → Prop
  | permissionsBoundary (role : IamRole) :
      Rewired old new [.key "permissions_boundary"]
        { role with permissionsBoundary := some old }
        { role with permissionsBoundary := some new }
  | managedPolicy (role : IamRole) (front back : List String) (hnew : new ∉ front ++ back) :
      Rewired old new [.key "managed_policy_arns", .index front.length]
        { role with managedPolicies := front ++ old :: back }
        { role with managedPolicies := front ++ new :: back }

variable {before after : IamRole}

theorem Rewired.violations_eq_nil (h : Rewired old new position before after)
    (hnew : IsReference new) (hbefore : before.violations = []) : after.violations = [] := by
  cases h with
  | permissionsBoundary role =>
      simp only [violations, checkBasics, List.append_eq_nil_iff] at hbefore ⊢
      obtain ⟨⟨⟨hbasics, -⟩, hpolicies⟩, htags⟩ := hbefore
      refine ⟨⟨⟨hbasics, ?_⟩, hpolicies⟩, htags⟩
      rw [toList_flatMap_eq_nil_iff]
      rintro _ ⟨⟩
      exact checkArn_of_isReference hnew
  | managedPolicy role front back hother =>
      simp only [violations, checkPolicies, List.append_eq_nil_iff, List.length_append,
        List.length_cons, Check.unique_eq_nil_iff, List.nodup_middle, List.nodup_cons]
        at hbefore ⊢
      -- the others stay different from each other, and the new one is none of them
      obtain ⟨⟨hbasics, ⟨⟨hinline, hcount⟩, -, hdistinct⟩, hnames⟩, htags⟩ := hbefore
      exact ⟨⟨hbasics, ⟨⟨hinline, hcount⟩, hother, hdistinct⟩,
        Path.flatMapItems_replace (fun _ => checkArn_of_isReference hnew) hnames⟩, htags⟩

theorem Rewired.replacedAt_write (h : Rewired old new position before after) :
    Json.ReplacedAt (.string old) (.string new) position (record.write before)
      (record.write after) := by
  refine Record.replacedAt_write ?_
  cases h with
  | permissionsBoundary role =>
      have hfield : (Field.optional "permissions_boundary" Codec.text).ReplacedAt (.string old)
          (.string new) [] (some old) (some new) := .optional Codec.replacedAt_text
      repeat refine .there (by decide) ?_
      exact .here hfield
  | managedPolicy role front back hother =>
      have hfield : (Field.listed "managed_policy_arns" Codec.text).ReplacedAt (.string old)
          (.string new) [.index front.length] (front ++ old :: back) (front ++ new :: back) :=
        .listed front back Codec.replacedAt_text
      repeat refine .there (by decide) ?_
      exact .here hfield

end IamRole

/-! ## Networks -/

namespace Vpc

/-- A network with another block of addresses. -/
inductive Rewired (old new : String) : Json.Position → Vpc → Vpc → Prop
  | cidrBlock (vpc : Vpc) :
      Rewired old new [.key "cidr_block"]
        { vpc with cidrBlock := some old } { vpc with cidrBlock := some new }

variable {before after : Vpc}

theorem Rewired.violations_eq_nil (h : Rewired old new position before after)
    (hnew : IsReference new) (hbefore : before.violations = []) : after.violations = [] := by
  obtain ⟨vpc⟩ := h
  simp only [violations, checkAddresses, List.append_eq_nil_iff] at hbefore ⊢
  obtain ⟨⟨⟨haddresses, -⟩, hdns⟩, htags⟩ := hbefore
  refine ⟨⟨⟨haddresses, ?_⟩, hdns⟩, htags⟩
  rw [toList_flatMap_eq_nil_iff]
  rintro _ ⟨⟩
  exact checkCidr_of_isReference hnew

theorem Rewired.replacedAt_write (h : Rewired old new position before after) :
    Json.ReplacedAt (.string old) (.string new) position (record.write before)
      (record.write after) := by
  refine Record.replacedAt_write ?_
  cases h with
  | cidrBlock vpc =>
      have hfield : (Field.optional "cidr_block" Codec.text).ReplacedAt (.string old) (.string new)
          [] (some old) (some new) := .optional Codec.replacedAt_text
      exact .here hfield

end Vpc

namespace Subnet

/-- A subnet of another network, or with another block or zone. -/
inductive Rewired (old new : String) : Json.Position → Subnet → Subnet → Prop
  | vpcId (subnet : Subnet) :
      Rewired old new [.key "vpc_id"]
        { subnet with vpcId := old } { subnet with vpcId := new }
  | cidrBlock (subnet : Subnet) :
      Rewired old new [.key "cidr_block"]
        { subnet with cidrBlock := old } { subnet with cidrBlock := new }
  | zone (subnet : Subnet) :
      Rewired old new [.key "availability_zone"]
        { subnet with zone := some old } { subnet with zone := some new }
  | zoneId (subnet : Subnet) :
      Rewired old new [.key "availability_zone_id"]
        { subnet with zoneId := some old } { subnet with zoneId := some new }

variable {before after : Subnet}

theorem Rewired.violations_eq_nil (h : Rewired old new position before after)
    (hnew : IsReference new) (hbefore : before.violations = []) : after.violations = [] := by
  cases h
  all_goals
    simp only [violations, checkZone, List.append_eq_nil_iff, toList_flatMap_eq_nil_iff,
      Check.formatOrReference_eq_nil_iff] at hbefore ⊢
    obtain ⟨⟨⟨⟨hvpc, hblock⟩, ⟨hchoice, hzone⟩, hzoneId⟩, hipv6⟩, htags⟩ := hbefore
  case vpcId =>
    exact ⟨⟨⟨⟨checkResourceId_of_isReference hnew, hblock⟩, ⟨hchoice, hzone⟩, hzoneId⟩,
      hipv6⟩, htags⟩
  case cidrBlock =>
    exact ⟨⟨⟨⟨hvpc, checkCidr_of_isReference hnew⟩, ⟨hchoice, hzone⟩, hzoneId⟩, hipv6⟩, htags⟩
  case zone =>
    refine ⟨⟨⟨⟨hvpc, hblock⟩, ⟨hchoice, ?_⟩, hzoneId⟩, hipv6⟩, htags⟩
    rintro _ ⟨⟩
    exact .inl hnew
  case zoneId =>
    refine ⟨⟨⟨⟨hvpc, hblock⟩, ⟨hchoice, hzone⟩, ?_⟩, hipv6⟩, htags⟩
    rintro _ ⟨⟩
    exact .inl hnew

theorem Rewired.replacedAt_write (h : Rewired old new position before after) :
    Json.ReplacedAt (.string old) (.string new) position (record.write before)
      (record.write after) := by
  refine Record.replacedAt_write ?_
  cases h with
  | vpcId subnet =>
      have hfield : (Field.required "vpc_id" Codec.text).ReplacedAt (.string old) (.string new) []
          old new := .required Codec.replacedAt_text
      exact .here hfield
  | cidrBlock subnet =>
      have hfield : (Field.required "cidr_block" Codec.text).ReplacedAt (.string old) (.string new)
          [] old new := .required Codec.replacedAt_text
      repeat refine .there (by decide) ?_
      exact .here hfield
  | zone subnet =>
      have hfield : (Field.optional "availability_zone" Codec.text).ReplacedAt (.string old)
          (.string new) [] (some old) (some new) := .optional Codec.replacedAt_text
      repeat refine .there (by decide) ?_
      exact .here hfield
  | zoneId subnet =>
      have hfield : (Field.optional "availability_zone_id" Codec.text).ReplacedAt (.string old)
          (.string new) [] (some old) (some new) := .optional Codec.replacedAt_text
      repeat refine .there (by decide) ?_
      exact .here hfield

end Subnet

/-! ## Security groups -/

namespace SecurityGroupRule

/-- A rule with another block of addresses or another security group in the place of
one. -/
inductive Rewired (old new : String) :
    Json.Position → SecurityGroupRule → SecurityGroupRule → Prop
  | cidrBlock (rule : SecurityGroupRule) (front back : List String) :
      Rewired old new [.key "cidr_blocks", .index front.length]
        { rule with cidrBlocks := front ++ old :: back }
        { rule with cidrBlocks := front ++ new :: back }
  | securityGroup (rule : SecurityGroupRule) (front back : List String) :
      Rewired old new [.key "security_groups", .index front.length]
        { rule with securityGroups := front ++ old :: back }
        { rule with securityGroups := front ++ new :: back }

variable {before after : SecurityGroupRule}

theorem Rewired.check_eq_nil (h : Rewired old new position before after)
    (hnew : IsReference new) {path : String} (hbefore : check path before = []) :
    check path after = [] := by
  cases h
  all_goals
    simp only [check, checkCidrs, List.append_eq_nil_iff, Check.that_eq_nil_iff] at hbefore ⊢
    -- that there is some source follows from the list not being empty
    obtain ⟨⟨⟨⟨hports, -⟩, hblocks⟩, hgroups⟩, hdescription⟩ := hbefore
  case cidrBlock =>
    exact ⟨⟨⟨⟨hports, by simp [hasSource]⟩,
      Path.flatMapItems_replace (fun _ => checkCidr_of_isReference hnew) hblocks⟩, hgroups⟩,
      hdescription⟩
  case securityGroup =>
    exact ⟨⟨⟨⟨hports, by simp [hasSource]⟩, hblocks⟩,
      Path.flatMapItems_replace (fun _ => checkResourceId_of_isReference hnew) hgroups⟩,
      hdescription⟩

theorem Rewired.replacedAt_write (h : Rewired old new position before after) :
    Json.ReplacedAt (.string old) (.string new) position (record.write before)
      (record.write after) := by
  refine Record.replacedAt_write ?_
  cases h with
  | cidrBlock rule front back =>
      have hfield : (Field.defaulted "cidr_blocks" Codec.text.list []).ReplacedAt (.string old)
          (.string new) [.index front.length] (front ++ old :: back) (front ++ new :: back) :=
        .defaulted (Codec.replacedAt_list front back Codec.replacedAt_text)
      repeat refine .there (by decide) ?_
      exact .here hfield
  | securityGroup rule front back =>
      have hfield : (Field.defaulted "security_groups" Codec.text.list []).ReplacedAt (.string old)
          (.string new) [.index front.length] (front ++ old :: back) (front ++ new :: back) :=
        .defaulted (Codec.replacedAt_list front back Codec.replacedAt_text)
      repeat refine .there (by decide) ?_
      exact .here hfield

end SecurityGroupRule

namespace SecurityGroup

/-- A group in another network, or with another rule in the place of one. -/
inductive Rewired (old new : String) : Json.Position → SecurityGroup → SecurityGroup → Prop
  | vpcId (group : SecurityGroup) :
      Rewired old new [.key "vpc_id"]
        { group with vpcId := some old } { group with vpcId := some new }
  | ingress {position : Json.Position} {before after : SecurityGroupRule} (group : SecurityGroup)
      (front back : List SecurityGroupRule)
      (h : SecurityGroupRule.Rewired old new position before after) :
      Rewired old new (.key "ingress" :: .index front.length :: position)
        { group with ingress := front ++ before :: back }
        { group with ingress := front ++ after :: back }
  | egress {position : Json.Position} {before after : SecurityGroupRule} (group : SecurityGroup)
      (front back : List SecurityGroupRule)
      (h : SecurityGroupRule.Rewired old new position before after) :
      Rewired old new (.key "egress" :: .index front.length :: position)
        { group with egress := front ++ before :: back }
        { group with egress := front ++ after :: back }

variable {before after : SecurityGroup}

theorem Rewired.violations_eq_nil (h : Rewired old new position before after)
    (hnew : IsReference new) (hbefore : before.violations = []) : after.violations = [] := by
  cases h
  all_goals
    simp only [violations, List.append_eq_nil_iff, toList_flatMap_eq_nil_iff] at hbefore ⊢
    obtain ⟨⟨⟨⟨hnames, hvpc⟩, hingress⟩, hegress⟩, htags⟩ := hbefore
  case vpcId =>
    refine ⟨⟨⟨⟨hnames, ?_⟩, hingress⟩, hegress⟩, htags⟩
    rintro _ ⟨⟩
    exact checkResourceId_of_isReference hnew
  case ingress h =>
    exact ⟨⟨⟨⟨hnames, hvpc⟩, Path.flatMapItems_replace (h.check_eq_nil hnew) hingress⟩,
      hegress⟩, htags⟩
  case egress h =>
    exact ⟨⟨⟨⟨hnames, hvpc⟩, hingress⟩, Path.flatMapItems_replace (h.check_eq_nil hnew) hegress⟩,
      htags⟩

theorem Rewired.replacedAt_write (h : Rewired old new position before after) :
    Json.ReplacedAt (.string old) (.string new) position (record.write before)
      (record.write after) := by
  refine Record.replacedAt_write ?_
  cases h with
  | vpcId group =>
      have hfield : (Field.optional "vpc_id" Codec.text).ReplacedAt (.string old) (.string new) []
          (some old) (some new) := .optional Codec.replacedAt_text
      repeat refine .there (by decide) ?_
      exact .here hfield
  | @ingress position rule rule' group front back h =>
      have hfield : (Field.listed "ingress" SecurityGroupRule.record.codec).ReplacedAt (.string old)
          (.string new) (.index front.length :: position) (front ++ rule :: back)
          (front ++ rule' :: back) := .listed front back h.replacedAt_write
      repeat refine .there (by decide) ?_
      exact .here hfield
  | @egress position rule rule' group front back h =>
      have hfield : (Field.listed "egress" SecurityGroupRule.record.codec).ReplacedAt (.string old)
          (.string new) (.index front.length :: position) (front ++ rule :: back)
          (front ++ rule' :: back) := .listed front back h.replacedAt_write
      repeat refine .there (by decide) ?_
      exact .here hfield

end SecurityGroup

/-! ## Target groups -/

namespace TargetGroup

/-- A group in another network. -/
inductive Rewired (old new : String) : Json.Position → TargetGroup → TargetGroup → Prop
  | vpcId (group : TargetGroup) :
      Rewired old new [.key "vpc_id"]
        { group with vpcId := some old } { group with vpcId := some new }

variable {before after : TargetGroup}

theorem Rewired.violations_eq_nil (h : Rewired old new position before after)
    (hnew : IsReference new) (hbefore : before.violations = []) : after.violations = [] := by
  obtain ⟨group⟩ := h
  simp only [violations, checkTargetType, List.append_eq_nil_iff] at hbefore ⊢
  obtain ⟨⟨⟨⟨⟨⟨hname, ⟨hpresence, -⟩, halb⟩, hgeneve⟩, happlication⟩, hhealth⟩, hstickiness⟩,
    htags⟩ := hbefore
  refine ⟨⟨⟨⟨⟨⟨hname, ⟨hpresence, ?_⟩, halb⟩, hgeneve⟩, happlication⟩, hhealth⟩, hstickiness⟩,
    htags⟩
  rw [toList_flatMap_eq_nil_iff]
  rintro _ ⟨⟩
  exact checkResourceId_of_isReference hnew

theorem Rewired.replacedAt_write (h : Rewired old new position before after) :
    Json.ReplacedAt (.string old) (.string new) position (record.write before)
      (record.write after) := by
  refine Record.replacedAt_write ?_
  cases h with
  | vpcId group =>
      have hfield : (Field.optional "vpc_id" Codec.text).ReplacedAt (.string old) (.string new) []
          (some old) (some new) := .optional Codec.replacedAt_text
      repeat refine .there (by decide) ?_
      exact .here hfield

end TargetGroup

/-! ## Alarms -/

namespace MetricAlarm

/-- An alarm with another action in the place of one. -/
inductive Rewired (old new : String) : Json.Position → MetricAlarm → MetricAlarm → Prop
  | alarmAction (alarm : MetricAlarm) (front back : List String) :
      Rewired old new [.key "alarm_actions", .index front.length]
        { alarm with alarmActions := front ++ old :: back }
        { alarm with alarmActions := front ++ new :: back }
  | okAction (alarm : MetricAlarm) (front back : List String) :
      Rewired old new [.key "ok_actions", .index front.length]
        { alarm with okActions := front ++ old :: back }
        { alarm with okActions := front ++ new :: back }
  | insufficientDataAction (alarm : MetricAlarm) (front back : List String) :
      Rewired old new [.key "insufficient_data_actions", .index front.length]
        { alarm with insufficientDataActions := front ++ old :: back }
        { alarm with insufficientDataActions := front ++ new :: back }

variable {before after : MetricAlarm}

theorem checkActions_replace {field : String} {front back : List String} (hnew : IsReference new)
    (h : checkActions field (front ++ old :: back) = []) :
    checkActions field (front ++ new :: back) = [] := by
  simp only [checkActions, List.append_eq_nil_iff, List.length_append, List.length_cons] at h ⊢
  exact ⟨h.1, Path.flatMapItems_replace (fun _ => checkArn_of_isReference hnew) h.2⟩

theorem Rewired.violations_eq_nil (h : Rewired old new position before after)
    (hnew : IsReference new) (hbefore : before.violations = []) : after.violations = [] := by
  cases h
  all_goals
    simp only [violations, List.append_eq_nil_iff] at hbefore ⊢
    obtain ⟨⟨⟨⟨hmetric, halarm⟩, hok⟩, hinsufficient⟩, htags⟩ := hbefore
  case alarmAction =>
    exact ⟨⟨⟨⟨hmetric, checkActions_replace hnew halarm⟩, hok⟩, hinsufficient⟩, htags⟩
  case okAction =>
    exact ⟨⟨⟨⟨hmetric, halarm⟩, checkActions_replace hnew hok⟩, hinsufficient⟩, htags⟩
  case insufficientDataAction =>
    exact ⟨⟨⟨⟨hmetric, halarm⟩, hok⟩, checkActions_replace hnew hinsufficient⟩, htags⟩

theorem Rewired.replacedAt_write (h : Rewired old new position before after) :
    Json.ReplacedAt (.string old) (.string new) position (record.write before)
      (record.write after) := by
  refine Record.replacedAt_write ?_
  cases h with
  | alarmAction alarm front back =>
      have hfield : (Field.listed "alarm_actions" Codec.text).ReplacedAt (.string old) (.string new)
          [.index front.length] (front ++ old :: back) (front ++ new :: back) :=
        .listed front back Codec.replacedAt_text
      repeat refine .there (by decide) ?_
      exact .here hfield
  | okAction alarm front back =>
      have hfield : (Field.listed "ok_actions" Codec.text).ReplacedAt (.string old) (.string new)
          [.index front.length] (front ++ old :: back) (front ++ new :: back) :=
        .listed front back Codec.replacedAt_text
      repeat refine .there (by decide) ?_
      exact .here hfield
  | insufficientDataAction alarm front back =>
      have hfield : (Field.listed "insufficient_data_actions" Codec.text).ReplacedAt (.string old)
          (.string new) [.index front.length] (front ++ old :: back) (front ++ new :: back) :=
        .listed front back Codec.replacedAt_text
      repeat refine .there (by decide) ?_
      exact .here hfield

end MetricAlarm

/-! ## Buckets -/

namespace Bucket

/-- A bucket with another name, or another beginning of its name. -/
inductive Rewired (old new : String) : Json.Position → Bucket → Bucket → Prop
  | name (bucket : Bucket) :
      Rewired old new [.key "bucket"]
        { bucket with name := some old } { bucket with name := some new }
  | nameStart (bucket : Bucket) :
      Rewired old new [.key "bucket_prefix"]
        { bucket with nameStart := some old } { bucket with nameStart := some new }

variable {before after : Bucket}

theorem Rewired.violations_eq_nil (h : Rewired old new position before after)
    (hnew : IsReference new) (hbefore : before.violations = []) : after.violations = [] := by
  cases h
  all_goals
    simp only [violations, List.append_eq_nil_iff, toList_flatMap_eq_nil_iff] at hbefore ⊢
    obtain ⟨⟨⟨hchoice, hname⟩, hstart⟩, htags⟩ := hbefore
  case name =>
    refine ⟨⟨⟨hchoice, ?_⟩, hstart⟩, htags⟩
    rintro _ ⟨⟩
    exact checkName_of_isReference hnew
  case nameStart =>
    refine ⟨⟨⟨hchoice, hname⟩, ?_⟩, htags⟩
    rintro _ ⟨⟩
    exact checkName_of_isReference hnew

theorem Rewired.replacedAt_write (h : Rewired old new position before after) :
    Json.ReplacedAt (.string old) (.string new) position (record.write before)
      (record.write after) := by
  refine Record.replacedAt_write ?_
  cases h with
  | name bucket =>
      have hfield : (Field.optional "bucket" Codec.text).ReplacedAt (.string old) (.string new) []
          (some old) (some new) := .optional Codec.replacedAt_text
      exact .here hfield
  | nameStart bucket =>
      have hfield : (Field.optional "bucket_prefix" Codec.text).ReplacedAt (.string old)
          (.string new) [] (some old) (some new) := .optional Codec.replacedAt_text
      repeat refine .there (by decide) ?_
      exact .here hfield

end Bucket

/-! ## Web access lists -/

namespace WebAcl

/-- A list with another resource name somewhere in the statement of a rule. -/
inductive Rewired (old new : String) : Json.Position → WebAcl → WebAcl → Prop
  | statement {position : Json.Position} {before after : Statement} (acl : WebAcl) (rule : Rule)
      (front back : List Rule) (h : Statement.Rewired old new position before after) :
      Rewired old new (.key "rule" :: .index front.length :: .key "statement" :: position)
        { acl with rules := front ++ { rule with statement := before } :: back }
        { acl with rules := front ++ { rule with statement := after } :: back }

/-- The choice of the action depends on the kind of the statement. -/
theorem Rule.check_replace {rule : Rule} {path : String} {before after : Statement}
    (h : Statement.Rewired old new position before after) (hnew : IsReference new)
    (hbefore : Rule.check path { rule with statement := before } = []) :
    Rule.check path { rule with statement := after } = [] := by
  simp only [Rule.check, checkAction, usesRuleGroup, h.isRuleGroup_eq, List.append_eq_nil_iff]
    at hbefore ⊢
  obtain ⟨⟨⟨haction, hstatement⟩, hvisibility⟩, hlabels⟩ := hbefore
  exact ⟨⟨⟨haction, h.check_eq_nil hnew hstatement⟩, hvisibility⟩, hlabels⟩

theorem Rule.replacedAt_write (rule : Rule) {before after : Statement}
    (h : Statement.Rewired old new position before after) :
    Json.ReplacedAt (.string old) (.string new) (.key "statement" :: position)
      (Rule.record.write { rule with statement := before })
      (Rule.record.write { rule with statement := after }) := by
  have hstatement : (Field.required "statement" Statement.codec).ReplacedAt (.string old)
      (.string new) position before after := .required h.replacedAt_write
  refine Record.replacedAt_write ?_
  repeat refine .there (by decide) ?_
  exact .here hstatement

variable {before after : WebAcl}

theorem Rewired.violations_eq_nil (h : Rewired old new position before after)
    (hnew : IsReference new) (hbefore : before.violations = []) : after.violations = [] := by
  obtain ⟨acl, rule, front, back, h⟩ := h
  -- names, priorities and the capacity are read off the rules and stay the same
  simp only [violations, checkCapacity, capacity, List.append_eq_nil_iff, List.map_append,
    List.map_cons, h.capacity_eq] at hbefore ⊢
  obtain ⟨⟨⟨⟨hnames, hrules⟩, hcapacity⟩, hvisibility⟩, htags⟩ := hbefore
  exact ⟨⟨⟨⟨hnames, Path.flatMapItems_replace (Rule.check_replace h hnew) hrules⟩, hcapacity⟩,
    hvisibility⟩, htags⟩

theorem Rewired.replacedAt_write (h : Rewired old new position before after) :
    Json.ReplacedAt (.string old) (.string new) position (record.write before)
      (record.write after) := by
  obtain @⟨position, statement, statement', acl, rule, front, back, h⟩ := h
  have hrule := Rule.replacedAt_write rule h
  have hrules : (Field.listed "rule" Rule.record.codec).ReplacedAt (.string old) (.string new)
      (.index front.length :: .key "statement" :: position)
      (front ++ { rule with statement := statement } :: back)
      (front ++ { rule with statement := statement' } :: back) := .listed front back hrule
  refine Record.replacedAt_write ?_
  repeat refine .there (by decide) ?_
  exact .here hrules

end WebAcl

/-! ## All types -/

namespace ResourceType

/-- The second attributes have `new` where the first ones have `old`, as the value of
one identifier, resource name, block, zone or name of a bucket.  Policies have none. -/
def Rewired (old new : String) :
    (type : ResourceType) → Json.Position → type.Attributes → type.Attributes → Prop
  | iamRole => IamRole.Rewired old new
  | iamPolicy => fun _ _ _ => False
  | targetGroup => TargetGroup.Rewired old new
  | webAcl => WebAcl.Rewired old new
  | metricAlarm => MetricAlarm.Rewired old new
  | bucket => Bucket.Rewired old new
  | vpc => Vpc.Rewired old new
  | subnet => Subnet.Rewired old new
  | securityGroup => SecurityGroup.Rewired old new

variable {type : ResourceType} {before after : type.Attributes}

theorem Rewired.violations_eq_nil (h : type.Rewired old new position before after)
    (hnew : IsReference new) (hbefore : (Resource.check before).violations = []) :
    (Resource.check after).violations = [] := by
  cases type with
  | iamRole => exact IamRole.Rewired.violations_eq_nil h hnew hbefore
  | iamPolicy => exact h.elim
  | targetGroup => exact TargetGroup.Rewired.violations_eq_nil h hnew hbefore
  | webAcl => exact WebAcl.Rewired.violations_eq_nil h hnew hbefore
  | metricAlarm => exact MetricAlarm.Rewired.violations_eq_nil h hnew hbefore
  | bucket => exact Bucket.Rewired.violations_eq_nil h hnew hbefore
  | vpc => exact Vpc.Rewired.violations_eq_nil h hnew hbefore
  | subnet => exact Subnet.Rewired.violations_eq_nil h hnew hbefore
  | securityGroup => exact SecurityGroup.Rewired.violations_eq_nil h hnew hbefore

theorem Rewired.replacedAt_block (h : type.Rewired old new position before after) :
    Json.ReplacedAt (.string old) (.string new) position (Resource.block before).toJson
      (Resource.block after).toJson := by
  cases type with
  | iamRole => exact IamRole.Rewired.replacedAt_write h
  | iamPolicy => exact h.elim
  | targetGroup => exact TargetGroup.Rewired.replacedAt_write h
  | webAcl => exact WebAcl.Rewired.replacedAt_write h
  | metricAlarm => exact MetricAlarm.Rewired.replacedAt_write h
  | bucket => exact Bucket.Rewired.replacedAt_write h
  | vpc => exact Vpc.Rewired.replacedAt_write h
  | subnet => exact Subnet.Rewired.replacedAt_write h
  | securityGroup => exact SecurityGroup.Rewired.replacedAt_write h

/-- **A reference may take the place of any identifier.**  If accepted attributes have
the interpolation for an attribute of any resource put in the place of an identifier,
resource name, block, zone or name of a bucket, they are still accepted, and the block
differs at that position only. -/
theorem validate_rewired {β : Type} [Resource β] (reference : Reference β) (output : String)
    (h : type.Rewired old (reference.interpolate output) position before after)
    (hbefore : Resource.validate before = .ok ()) :
    Resource.validate after = .ok () ∧
      Json.ReplacedAt (.string old) (.string (reference.interpolate output)) position
        (Resource.block before).toJson (Resource.block after).toJson := by
  have hnew : IsReference (reference.interpolate output) :=
    Interpolation.isInterpolation_iff.mp (Interpolation.isInterpolation_ofResource _ _ _)
  rw [Resource.validate_eq_ok_iff] at hbefore ⊢
  exact ⟨h.violations_eq_nil hnew hbefore, h.replacedAt_block⟩

/-- Requests from Germany. -/
def fromGermany : WebAcl.Statement :=
  .ofBody { WebAcl.StatementBody.blank with geoMatch := some ⟨["DE"]⟩ }

/-- A rule that limits requests. -/
def limitRule (requests : WebAcl.Statement) : WebAcl.Rule where
  name := "limit"
  priority := 1
  action := some ⟨none, some ⟨none⟩, none, none, none⟩
  overrideAction := none
  statement := .ofBody { WebAcl.StatementBody.blank with
    rateBased := some ⟨2000, "IP", none, some requests⟩ }
  visibility := .ofMetric "limit"
  labels := []

/-- A list that limits requests from Germany and from a set of addresses. -/
def officesAcl (set : String) : WebAcl where
  name := "offices"
  description := none
  scope := .regional
  defaultAction := ⟨some {}, none⟩
  rules := [limitRule (.ofBody { WebAcl.StatementBody.blank with
    conjunction := some ⟨[
      fromGermany, .ofBody { WebAcl.StatementBody.blank with ipSet := some ⟨set⟩ }]⟩ })]
  visibility := .ofMetric "offices"
  tags := .empty

/-- Where the set is named in the list. -/
def officesPosition : Json.Position := [
  .key "rule", .index 0, .key "statement", .key "rate_based_statement",
  .key "scope_down_statement", .key "and_statement", .key "statement", .index 1,
  .key "ip_set_reference_statement", .key "arn"]

theorem rewired_officesAcl (old new : String) :
    webAcl.Rewired old new officesPosition (officesAcl old) (officesAcl new) := by
  -- from the rule down to the set
  refine .statement (officesAcl old) (limitRule fromGermany) [] [] ?_
  refine .rateBased .blank ⟨2000, "IP", none, none⟩ ?_
  refine .conjunction .blank [fromGermany] [] ?_
  exact .ipSet .blank

theorem validate_rewired_officesAcl :
    let set := (⟨"main", .ofBlock "10.0.0.0/16"⟩ : Reference Vpc).interpolate "arn"
    let written := "arn:aws:wafv2:eu-central-1:123456789012:regional/ipset/offices/1"
    Resource.validate (officesAcl written) = .ok () ∧
      Resource.validate (officesAcl set) = .ok () ∧
      Json.ReplacedAt (.string written) (.string set) officesPosition
        (Resource.block (officesAcl written)).toJson (Resource.block (officesAcl set)).toJson := by
  intro set written
  have h : Resource.validate (officesAcl written) = .ok () :=
    Resource.validate_eq_ok_iff.mpr (by decide +kernel)
  have hafter := validate_rewired (⟨"main", .ofBlock "10.0.0.0/16"⟩ : Reference Vpc) "arn"
    (rewired_officesAcl written set) h
  exact ⟨h, hafter.1, hafter.2⟩

end ResourceType

end InfraSynth.Aws

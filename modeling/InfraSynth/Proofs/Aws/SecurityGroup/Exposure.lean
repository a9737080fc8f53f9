import InfraSynth.Aws.SecurityGroup
import InfraSynth.Proofs.Aws.Cidr
import InfraSynth.Proofs.Resource

/-!
# Rules that are open to the internet

What is computed from a security group depends on which of its rules count as
open.  In an accepted group a rule counts as open if it names the block of all
IPv6 addresses, or that of all IPv4 addresses in the form in which blocks are
written, `followsOpenRules_of_validate`.

Other texts for the block of all IPv4 addresses pass the check, too: a sign or more
zeros may stand in its length.  A rule that names it only in such a way does not
count as open.
-/

namespace InfraSynth.Aws

namespace SecurityGroupRule

/-- The rule names the block of all addresses, the block of IPv4 addresses in the
form in which blocks are written. -/
def NamesEverything (rule : SecurityGroupRule) : Prop :=
  (∃ text ∈ rule.cidrBlocks, ∃ cidr, Cidr.parse? text = some cidr ∧
      cidr.size = Nat.pow 2 32 ∧ cidr.text = text) ∨
    "::/0" ∈ rule.ipv6CidrBlocks

variable {rule : SecurityGroupRule} {path : String}

theorem checkCidrs_eq_nil_of_check (h : rule.check path = []) :
    checkCidrs (Path.field path "cidr_blocks") rule.cidrBlocks = [] := by
  simp only [check, List.append_eq_nil_iff] at h
  exact h.1.1.2

/-- A rule that passes its check counts as open exactly if it names the block of all
addresses. -/
theorem isOpenToInternet_iff (h : rule.check path = []) :
    rule.isOpenToInternet = true ↔ rule.NamesEverything := by
  have hcidrs := checkCidrs_eq_nil_of_check h
  have hblock : "0.0.0.0/0" ∈ rule.cidrBlocks ↔ ∃ text ∈ rule.cidrBlocks, ∃ cidr,
      Cidr.parse? text = some cidr ∧ cidr.size = Nat.pow 2 32 ∧ cidr.text = text := by
    constructor
    · intro hmem
      have hparse : Cidr.parse? "0.0.0.0/0" = some ⟨0, 0, by decide⟩ := by decide
      exact ⟨_, hmem, _, hparse, rfl, by decide⟩
    · rintro ⟨text, hmem, cidr, hparse, hsize, rfl⟩
      have hnetwork := isNetwork_of_checkCidrs hcidrs hmem hparse
      rwa [Cidr.text_eq_of_size hsize hnetwork] at hmem
  rw [isOpenToInternet, Bool.or_eq_true, List.contains_iff_mem, List.contains_iff_mem, hblock,
    NamesEverything]

/-- The texts for the block of all addresses that a rule may have if it passes its
check. -/
theorem writesEverything_iff (h : rule.check path = []) {text : String}
    (htext : text ∈ rule.cidrBlocks) :
    Cidr.WritesEverything text ↔
      ∃ more, text = "0.0.0.0/" ++ String.ofList (List.replicate (more + 1) '0') ∨
        text = "0.0.0.0/+" ++ String.ofList (List.replicate (more + 1) '0') := by
  rw [← Cidr.numeral_everything_iff, ← Cidr.parse?_everything_iff, Cidr.WritesEverything]
  constructor
  · rintro ⟨cidr, hparse, hsize⟩
    exact ⟨cidr, hparse, hsize, isNetwork_of_checkCidrs (checkCidrs_eq_nil_of_check h) htext hparse⟩
  · rintro ⟨cidr, hparse, hsize, -⟩
    exact ⟨cidr, hparse, hsize⟩

end SecurityGroupRule

namespace SecurityGroup

variable {group : SecurityGroup}

theorem exists_check_eq_nil_of_validate (h : Resource.validate group = .ok ())
    {rule : SecurityGroupRule} (hrule : rule ∈ group.ingress) :
    ∃ path, rule.check path = [] := by
  have hviolations : group.violations = [] := Resource.validate_eq_ok_iff.mp h
  simp only [violations, List.append_eq_nil_iff] at hviolations
  obtain ⟨⟨⟨-, hingress⟩, -⟩, -⟩ := hviolations
  obtain ⟨i, hi, rfl⟩ := List.mem_iff_getElem.mp hrule
  exact ⟨_, Path.flatMapItems_eq_nil_iff.mp hingress i hi⟩

/-- What is computed from a group follows from which of its rules name the block of
all addresses. -/
structure FollowsOpenRules (group : SecurityGroup) : Prop where
  isOpen : ∀ rule ∈ group.ingress, rule.isOpenToInternet = true ↔ rule.NamesEverything
  /-- The texts for the block of all addresses, of which only the first one is as
  blocks are written. -/
  texts : ∀ rule ∈ group.ingress, ∀ text ∈ rule.cidrBlocks, Cidr.WritesEverything text ↔
    ∃ more, text = "0.0.0.0/" ++ String.ofList (List.replicate (more + 1) '0') ∨
      text = "0.0.0.0/+" ++ String.ofList (List.replicate (more + 1) '0')
  openPorts : ∀ ports, ports ∈ group.computed.openPorts ↔ ∃ rule ∈ group.ingress,
    rule.NamesEverything ∧ ports = ⟨rule.protocol, rule.fromPort, rule.toPort⟩
  allowsSsh : group.computed.allowsSsh = true ↔ ∃ rule ∈ group.ingress,
    rule.NamesEverything ∧ rule.coversTcpPort sshPort = true
  allowsAll : group.computed.allowsAll = true ↔ ∃ rule ∈ group.ingress,
    rule.NamesEverything ∧ rule.isAllTraffic = true
  warnings : group.warnings ≠ [] ↔ ∃ rule ∈ group.ingress,
    rule.NamesEverything ∧ rule.coversTcpPort sshPort = true

/-- **What is computed from an accepted group follows from the rules that name the
block of all addresses.** -/
theorem followsOpenRules_of_validate (h : Resource.validate group = .ok ()) :
    group.FollowsOpenRules := by
  have hopen : ∀ rule ∈ group.ingress, rule.isOpenToInternet = true ↔ rule.NamesEverything := by
    intro rule hrule
    obtain ⟨path, hcheck⟩ := exists_check_eq_nil_of_validate h hrule
    exact SecurityGroupRule.isOpenToInternet_iff hcheck
  have hany : ∀ test : SecurityGroupRule → Bool, group.openIngress.any test = true ↔
      ∃ rule ∈ group.ingress, rule.NamesEverything ∧ test rule = true := by
    intro test
    rw [openIngress, List.any_filter, List.any_eq_true]
    refine exists_congr fun rule => and_congr_right fun hrule => ?_
    rw [Bool.and_eq_true, hopen rule hrule]
  refine ⟨hopen, fun rule hrule text htext => ?_, fun ports => ?_, hany _, hany _, ?_⟩
  · obtain ⟨path, hcheck⟩ := exists_check_eq_nil_of_validate h hrule
    exact SecurityGroupRule.writesEverything_iff hcheck htext
  · simp only [computed, openIngress, List.mem_map, List.mem_filter]
    constructor
    · rintro ⟨rule, ⟨hrule, hrule'⟩, rfl⟩
      exact ⟨rule, hrule, (hopen rule hrule).mp hrule', rfl⟩
    · rintro ⟨rule, hrule, heverything, rfl⟩
      exact ⟨rule, ⟨hrule, (hopen rule hrule).mpr heverything⟩, rfl⟩
  · rw [← hany, ← allowsSsh, warnings]
    cases group.allowsSsh <;> simp

/-- The group that admits remote logins from one block. -/
def loginGroup (cidr : String) : SecurityGroup :=
  ofIngress [(SecurityGroupRule.tcp sshPort).withCidr cidr]

theorem followsOpenRules_loginGroup :
    Resource.validate (loginGroup "0.0.0.0/0") = .ok () ∧
      (loginGroup "0.0.0.0/0").FollowsOpenRules := by
  have h : Resource.validate (loginGroup "0.0.0.0/0") = .ok () :=
    Resource.validate_eq_ok_iff.mpr (by decide +kernel)
  exact ⟨h, followsOpenRules_of_validate h⟩

/-- With one more zero in its length the block is accepted and still is that of all
addresses, but the rule no longer counts as open, and nothing is warned of. -/
theorem validate_paddedLoginGroup :
    Resource.validate (loginGroup "0.0.0.0/00") = .ok () ∧
      Cidr.WritesEverything "0.0.0.0/00" ∧
      (∀ rule ∈ (loginGroup "0.0.0.0/00").ingress,
        "0.0.0.0/00" ∈ rule.cidrBlocks ∧ rule.isOpenToInternet = false) ∧
      (loginGroup "0.0.0.0/00").computed.openPorts = [] ∧
      (loginGroup "0.0.0.0/00").computed.allowsSsh = false ∧
      (loginGroup "0.0.0.0/00").warnings = [] := by
  have h : Resource.validate (loginGroup "0.0.0.0/00") = .ok () :=
    Resource.validate_eq_ok_iff.mpr (by decide +kernel)
  have hparse : Cidr.parse? "0.0.0.0/00" = some ⟨0, 0, by decide⟩ := by decide
  exact ⟨h, ⟨_, hparse, rfl⟩, by decide, by decide, by decide, by decide⟩

end SecurityGroup

end InfraSynth.Aws

import InfraSynth.Aws.Subnet
import InfraSynth.Proofs.Aws.Cidr
import InfraSynth.Proofs.Resource

/-!
# How many addresses networks have

The addresses of a network are given as a block, by a pool and the length of a netmask,
or by an interpolation, and those of a subnet by a block or an interpolation.  What is
computed for an accepted network or subnet is the number that the length leaves, and
none for an interpolation.  `counted_of_validate` says so of both, and of the warning
about blocks that are not private.

## Strategy

Whether a field holds a block or an interpolation is decided twice: the check looks for
an interpolation first, and the computation takes whatever can be read as a block.
Nothing is both, `Cidr.parse?_of_isReference`, so an accepted field is one or the other,
`parse?_of_checkCidr`.  The numbers are exact because of the bounds that are checked:
a length between 16 and 28 leaves no more addresses than 64 bits can count, and more
than the five that are kept back.
-/

namespace InfraSynth.Aws

open Interpolation (IsReference)

/-! ## Lengths and numbers -/

/-- The number of addresses that an accepted length leaves, which a shift of 64 bits
gives as well. -/
structure IsExactCount (length count : Nat) : Prop where
  low : 16 ≤ length
  high : length ≤ 28
  exact : count = Nat.pow 2 (32 - length)
  shift : ((1 : UInt64) <<< UInt64.ofNat (32 - length)).toNat = count

theorem toNat_one_shiftLeft {bits : Nat} (h : bits < 64) :
    ((1 : UInt64) <<< UInt64.ofNat bits).toNat = Nat.pow 2 bits := by
  have hpow : Nat.pow 2 bits < Nat.pow 2 64 := Nat.pow_lt_pow_right (by decide) h
  have hbits : bits < Nat.pow 2 64 := h.trans (by decide)
  calc ((1 : UInt64) <<< UInt64.ofNat bits).toNat
      = Nat.pow 2 bits % Nat.pow 2 64 := by
        rw [UInt64.toNat_shiftLeft, UInt64.toNat_ofNat_of_lt' hbits, Nat.mod_eq_of_lt h,
          UInt64.toNat_one, Nat.shiftLeft_eq, Nat.one_mul]
        rfl
    _ = Nat.pow 2 bits := Nat.mod_eq_of_lt hpow

theorem isExactCount {length : Nat} (hlow : minNetmask ≤ length) (hhigh : length ≤ maxNetmask) :
    IsExactCount length (Nat.pow 2 (32 - length)) where
  low := hlow
  high := hhigh
  exact := rfl
  shift := toNat_one_shiftLeft (by omega)

/-- There are no fewer addresses than are kept back. -/
theorem IsExactCount.reserved_le {length count : Nat} (h : IsExactCount length count) :
    reservedAddresses ≤ count := by
  have hbits : 4 ≤ 32 - length := by
    have := h.high
    omega
  calc reservedAddresses
      ≤ Nat.pow 2 4 := by decide
    _ ≤ Nat.pow 2 (32 - length) := Nat.pow_le_pow_right (by decide) hbits
    _ = count := h.exact.symm

/-- An accepted field holds an interpolation, which is not read as a block, or a block of
an exact size. -/
theorem parse?_of_checkCidr {field value : String}
    (h : checkCidr field value minNetmask maxNetmask = []) :
    IsReference value ∧ Cidr.parse? value = none ∨
      ¬IsReference value ∧ ∃ cidr, Cidr.parse? value = some cidr ∧
        IsExactCount cidr.length cidr.size := by
  rcases checkCidr_eq_nil_iff.mp h with hreference | ⟨cidr, hparse, ⟨hlow, hhigh⟩, -⟩
  · exact .inl ⟨hreference, Cidr.parse?_of_isReference hreference⟩
  · exact .inr ⟨Cidr.not_isReference_of_parse? hparse, cidr, hparse,
      isExactCount (by exact_mod_cast hlow) (by exact_mod_cast hhigh)⟩

/-- The check and the computation agree on which texts are blocks. -/
theorem literalCidr?_eq (value : String) : literalCidr? value = Cidr.parse? value := by
  rw [literalCidr?]
  split
  · rename_i hreference
    exact (Cidr.parse?_of_isReference (Interpolation.isInterpolation_iff.mp hreference)).symm
  · rfl

/-! ## Networks -/

namespace Vpc

variable {vpc : Vpc}

/-- The warning about a block outside the private ranges, as it is logged. -/
def publicWarning (block : String) : String :=
  "aws_vpc: " ++ s!"cidr_block {block} is not an RFC 1918 private range"

/-- What is computed for a network, for each way to give its addresses, and what is
logged. -/
structure Counted (vpc : Vpc) : Prop where
  given : Xor (vpc.cidrBlock.isSome = true) (vpc.poolId.isSome = true)
  literal : ∀ block ∈ vpc.cidrBlock, ¬IsReference block → ∃ cidr count,
    Cidr.parse? block = some cidr ∧ vpc.computed.addressCount = some count ∧
      IsExactCount cidr.length count
  pool : vpc.poolId.isSome = true → ∃ length count, vpc.netmaskLength = some length ∧
    vpc.computed.addressCount = some count ∧ IsExactCount length.toNat count
  reference : ∀ block ∈ vpc.cidrBlock, IsReference block → vpc.computed.addressCount = none
  warned : ∀ warning, warning ∈ Resource.warnings vpc ↔ ∃ block ∈ vpc.cidrBlock,
    warning = publicWarning block ∧ ¬IsReference block ∧ vpc.computed.isPrivate = false

/-- A network has a block, or a pool and the length of a netmask. -/
theorem given_of_checkAddresses (h : vpc.checkAddresses = []) :
    (∃ block, vpc.cidrBlock = some block ∧ vpc.poolId = none ∧ vpc.netmaskLength = none ∧
      checkCidr "cidr_block" block minNetmask maxNetmask = []) ∨
    ∃ pool length, vpc.cidrBlock = none ∧ vpc.poolId = some pool ∧
      vpc.netmaskLength = some length ∧
        IsExactCount length.toNat (Nat.pow 2 (32 - length.toNat)) := by
  simp only [checkAddresses, List.append_eq_nil_iff, Check.exactlyOneOf_pair_eq_nil_iff,
    Check.requires_eq_nil_iff, Check.forbids_eq_nil_iff, toList_flatMap_eq_nil_iff,
    Check.range_eq_nil_iff] at h
  obtain ⟨⟨⟨⟨hone, hrequires⟩, hforbids⟩, hrange⟩, hblock⟩ := h
  rcases hone with ⟨hcidr, hpool⟩ | ⟨hpool, hcidr⟩
  · obtain ⟨block, hcidr⟩ := Option.isSome_iff_exists.mp hcidr
    have hpool : vpc.poolId = none := Option.not_isSome_iff_eq_none.mp hpool
    have hlength : vpc.netmaskLength = none := by
      rw [← Option.not_isSome_iff_eq_none]
      exact fun hsome => hforbids ⟨hsome, by rw [hpool]; rfl⟩
    exact .inl ⟨block, hcidr, hpool, hlength, hblock block hcidr⟩
  · obtain ⟨length, hlength⟩ := Option.isSome_iff_exists.mp (hrequires hpool)
    obtain ⟨pool, hpool⟩ := Option.isSome_iff_exists.mp hpool
    obtain ⟨hlow, hhigh⟩ := hrange length hlength
    exact .inr ⟨pool, length, Option.not_isSome_iff_eq_none.mp hcidr, hpool, hlength,
      isExactCount (by exact_mod_cast hlow) (by exact_mod_cast hhigh)⟩

/-- A block that can be read and is not private is warned of. -/
theorem mem_warnings_iff {warning : String} : warning ∈ Resource.warnings vpc ↔
    ∃ block ∈ vpc.cidrBlock, warning = publicWarning block ∧
      ∃ cidr, Cidr.parse? block = some cidr ∧ cidr.isPrivate = false := by
  have hlogged : Resource.warnings vpc = vpc.warnings.map fun text => s!"aws_vpc: {text}" := rfl
  rw [hlogged, warnings]
  cases vpc.cidrBlock with
  | none => simp
  | some block =>
      simp only [Option.toList_some, List.flatMap_cons, List.flatMap_nil, List.append_nil,
        literalCidr?_eq, Option.mem_some_iff, exists_eq_left']
      cases Cidr.parse? block with
      | none => simp
      | some cidr =>
          cases hprivate : cidr.isPrivate <;>
            simp [hprivate, publicWarning, Text.toString_eq, eq_comm (a := warning)]

theorem cidr?_of_cidrBlock {block : String} (h : vpc.cidrBlock = some block) :
    vpc.cidr? = Cidr.parse? block := by
  rw [cidr?, h, Option.bind_some]

/-- What is warned of are the blocks that do not count as private. -/
theorem mem_warnings_iff_isPrivate {warning : String}
    (h : ∀ block ∈ vpc.cidrBlock, checkCidr "cidr_block" block minNetmask maxNetmask = []) :
    warning ∈ Resource.warnings vpc ↔ ∃ block ∈ vpc.cidrBlock,
      warning = publicWarning block ∧ ¬IsReference block ∧ vpc.computed.isPrivate = false := by
  rw [mem_warnings_iff]
  refine exists_congr fun block => and_congr_right fun hblock => and_congr_right fun _ => ?_
  have hprivate : vpc.computed.isPrivate = (Cidr.parse? block).any Cidr.isPrivate :=
    congrArg (Option.any Cidr.isPrivate) (cidr?_of_cidrBlock hblock)
  rw [hprivate]
  rcases parse?_of_checkCidr (h block hblock) with ⟨hreference, hnone⟩ | ⟨hliteral, cidr, hparse, -⟩
  · simp [hreference, hnone]
  · simp [hliteral, hparse]

theorem counted_of_violations (h : vpc.violations = []) : vpc.Counted := by
  simp only [violations, List.append_eq_nil_iff] at h
  obtain ⟨⟨haddresses, -⟩, -⟩ := h
  have hblocks : ∀ block ∈ vpc.cidrBlock,
      checkCidr "cidr_block" block minNetmask maxNetmask = [] := by
    rw [checkAddresses, List.append_eq_nil_iff, toList_flatMap_eq_nil_iff] at haddresses
    exact haddresses.2
  rcases given_of_checkAddresses haddresses with
    ⟨block, hblock, hpool, hlength, hcheck⟩ | ⟨pool, length, hblock, hpool, hlength, hcount⟩
  · have hcomputed : vpc.computed.addressCount = (Cidr.parse? block).map Cidr.size := by
      simp [computed, cidr?_of_cidrBlock hblock, hlength]
    refine ⟨.inl ⟨by simp [hblock], by simp [hpool]⟩, fun other hother hliteral => ?_,
      by simp [hpool], fun other hother hreference => ?_,
      fun warning => mem_warnings_iff_isPrivate hblocks⟩
    · obtain rfl := Option.some.inj (hblock.symm.trans hother)
      rcases parse?_of_checkCidr hcheck with ⟨hreference, -⟩ | ⟨-, cidr, hparse, hcount⟩
      · exact absurd hreference hliteral
      · exact ⟨cidr, cidr.size, hparse, by rw [hcomputed, hparse]; rfl, hcount⟩
    · obtain rfl := Option.some.inj (hblock.symm.trans hother)
      rw [hcomputed, Cidr.parse?_of_isReference hreference]
      rfl
  · have hcomputed : vpc.computed.addressCount = some (Nat.pow 2 (32 - length.toNat)) := by
      simp [computed, cidr?, hblock, hlength]
    exact ⟨.inr ⟨by simp [hpool], by simp [hblock]⟩, by simp [hblock],
      fun _ => ⟨length, _, hlength, hcomputed, hcount⟩, by simp [hblock],
      fun warning => mem_warnings_iff_isPrivate hblocks⟩

end Vpc

/-! ## Subnets -/

namespace Subnet

variable {subnet : Subnet}

/-- What is computed for a subnet, for each way to give its addresses; five of them are
kept back. -/
structure Counted (subnet : Subnet) : Prop where
  literal : ¬IsReference subnet.cidrBlock → ∃ cidr count,
    Cidr.parse? subnet.cidrBlock = some cidr ∧ subnet.computed.addressCount = some count ∧
      IsExactCount cidr.length count
  reference : IsReference subnet.cidrBlock → subnet.computed.addressCount = none
  present : subnet.computed.usableAddressCount.isSome = subnet.computed.addressCount.isSome
  usable : ∀ count ∈ subnet.computed.addressCount,
    ∃ usable ∈ subnet.computed.usableAddressCount, usable + 5 = count

theorem counted_of_violations (h : subnet.violations = []) : subnet.Counted := by
  simp only [violations, List.append_eq_nil_iff] at h
  obtain ⟨⟨⟨⟨-, hblock⟩, -⟩, -⟩, -⟩ := h
  have hcomputed : subnet.computed.addressCount =
      (Cidr.parse? subnet.cidrBlock).map Cidr.size := rfl
  have husable : subnet.computed.usableAddressCount =
      subnet.computed.addressCount.map (· - reservedAddresses) := rfl
  rcases parse?_of_checkCidr hblock with ⟨hreference, hnone⟩ | ⟨hliteral, cidr, hparse, hcount⟩
  · rw [hnone, Option.map_none] at hcomputed
    refine ⟨fun hliteral => absurd hreference hliteral, fun _ => hcomputed, ?_, ?_⟩
    · rw [husable, Option.isSome_map]
    · simp [hcomputed]
  · rw [hparse, Option.map_some] at hcomputed
    refine ⟨fun _ => ⟨cidr, cidr.size, hparse, hcomputed, hcount⟩,
      fun hreference => absurd hreference hliteral, ?_, fun count hmem => ?_⟩
    · rw [husable, Option.isSome_map]
    · obtain rfl := Option.some.inj (hcomputed.symm.trans hmem)
      refine ⟨cidr.size - reservedAddresses, by rw [husable, hcomputed]; rfl, ?_⟩
      exact Nat.sub_add_cancel hcount.reserved_le

end Subnet

/-! ## Accepted networks and subnets -/

/-- **The numbers of addresses that are computed for accepted networks and subnets are
exact**, and a network is warned of exactly if its block counts as one that is not
private. -/
theorem counted_of_validate :
    (∀ vpc : Vpc, Resource.validate vpc = .ok () → vpc.Counted) ∧
      ∀ subnet : Subnet, Resource.validate subnet = .ok () → subnet.Counted := by
  constructor
  · intro vpc h
    exact Vpc.counted_of_violations (Resource.validate_eq_ok_iff.mp h)
  · intro subnet h
    exact Subnet.counted_of_violations (Resource.validate_eq_ok_iff.mp h)

/-- The least network, in a block that is not private. -/
def publicVpc : Vpc :=
  .ofBlock "8.8.8.0/28"

/-- The least subnet of a network. -/
def leastSubnet : Subnet :=
  .ofBlock (Interpolation.ofResource "aws_vpc" "main" "id") "10.0.1.16/28"

theorem counted_publicVpc_leastSubnet :
    Resource.validate publicVpc = .ok () ∧ publicVpc.Counted ∧
      Resource.validate leastSubnet = .ok () ∧ leastSubnet.Counted ∧
        publicVpc.computed.addressCount = some 16 ∧
          leastSubnet.computed.usableAddressCount = some 11 := by
  have hvpc : Resource.validate publicVpc = .ok () :=
    Resource.validate_eq_ok_iff.mpr (by decide +kernel)
  have hsubnet : Resource.validate leastSubnet = .ok () :=
    Resource.validate_eq_ok_iff.mpr (by decide +kernel)
  exact ⟨hvpc, counted_of_validate.1 publicVpc hvpc, hsubnet,
    counted_of_validate.2 leastSubnet hsubnet, by decide +kernel, by decide +kernel⟩

end InfraSynth.Aws

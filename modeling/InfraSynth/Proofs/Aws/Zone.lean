import InfraSynth.Aws.Subnet
import InfraSynth.Proofs.Aws.Provider
import InfraSynth.Proofs.Check
import InfraSynth.Proofs.Resource
import InfraSynth.Proofs.Text

/-!
# Availability zones and regions

The name of an availability zone is that of its region with a letter after it.  The two
forms are given apart from each other, and agree but for one thing: a region may be in an
isolated partition, as `us-iso-east-1` is, and no zone may.  `validate_zone_iff` says
that a subnet may be in a zone exactly if its name is that of an accepted region and a
letter, and the region is not isolated.

## Strategy

Both forms are read as regions with a partition that is written out, `IsRegionOf`, so what
is left is to compare the partitions.  That is enough, as a name has only one:
`IsRegionOf.partition_unique` finds it between the two letters of the area and the last
hyphens, of which a direction has none.
-/

namespace InfraSynth.Aws

open Pattern

variable {partition : List Char} {region zone : String}

/-! ## Partitions -/

/-- The name of a region in a partition. -/
def IsRegionOf (partition : List Char) (region : String) : Prop :=
  ∃ (area direction : List Char) (number : Char),
    region.toList = area ++ (partition ++ '-' :: (direction ++ ['-', number])) ∧
    (area.length = 2 ∧ ∀ c ∈ area, c.isLower = true) ∧
    (direction ≠ [] ∧ ∀ c ∈ direction, c.isLower = true) ∧
    Unicode.isDigit number = true

/-- The region is in a partition of its own, which no other network reaches. -/
def IsIsolated (region : String) : Prop :=
  ∃ partition, "-iso".toList <+: partition ∧ IsRegionOf partition region

theorem isRegion_iff :
    IsRegion region ↔ ∃ partition, IsPartition partition ∧ IsRegionOf partition region := by
  constructor
  · rintro ⟨area, partition, direction, number, htext, harea, hpartition, hrest⟩
    exact ⟨partition, hpartition, area, direction, number, htext, harea, hrest⟩
  · rintro ⟨partition, hpartition, area, direction, number, htext, harea, hrest⟩
    exact ⟨area, partition, direction, number, htext, harea, hpartition, hrest⟩

/-- A region is in one partition only. -/
theorem IsRegionOf.partition_unique {other : List Char} (h : IsRegionOf partition region)
    (h' : IsRegionOf other region) : partition = other := by
  obtain ⟨area, direction, number, htext, ⟨harea, -⟩, ⟨-, hdirection⟩, -⟩ := h
  obtain ⟨area', direction', number', htext', ⟨harea', -⟩, ⟨-, hdirection'⟩, -⟩ := h'
  have hhyphen : ∀ letters : List Char, (∀ c ∈ letters, c.isLower = true) →
      '-' ∉ letters.reverse := by
    intro letters hletters hmem
    exact absurd (hletters '-' (List.mem_reverse.mp hmem)) (by decide)
  have hlength : area.length = area'.length := by rw [harea, harea']
  obtain ⟨-, hrest⟩ := List.append_inj (htext.symm.trans htext') hlength
  -- from the end the direction comes before the partition
  have hback := congrArg List.reverse hrest
  simp only [List.reverse_append, List.reverse_cons, List.reverse_nil, List.nil_append,
    List.cons_append, List.append_assoc, List.cons.injEq, true_and] at hback
  obtain ⟨-, hpartition⟩ :=
    Text.append_cons_inj (hhyphen _ hdirection) (hhyphen _ hdirection') hback.2
  exact List.reverse_inj.mp hpartition

/-- The partitions that zones may be in. -/
theorem isPartition_iff : IsPartition partition ↔
    (partition = [] ∨ partition = "-gov".toList) ∨
      (partition = "-iso".toList ∨
        ∃ letter, partition = "-iso".toList ++ [letter] ∧ letter.isLower = true) := by
  rw [IsPartition, or_assoc]

/-- Zones are in the partitions of regions that are not isolated. -/
theorem exists_reached_iff :
    (∃ partition, (partition = [] ∨ partition = "-gov".toList) ∧ IsRegionOf partition region) ↔
      IsRegion region ∧ ¬IsIsolated region := by
  rw [isRegion_iff]
  constructor
  · rintro ⟨partition, hreached, hregion⟩
    refine ⟨⟨partition, isPartition_iff.mpr (.inl hreached), hregion⟩, ?_⟩
    rintro ⟨isolated, hisolated, hother⟩
    rw [← hregion.partition_unique hother] at hisolated
    rcases hreached with rfl | rfl <;> exact absurd hisolated (by decide)
  · rintro ⟨⟨partition, hpartition, hregion⟩, hnot⟩
    rcases isPartition_iff.mp hpartition with hreached | hiso | ⟨letter, hiso, -⟩
    · exact ⟨partition, hreached, hregion⟩
    · exact absurd ⟨partition, hiso ▸ List.prefix_rfl, hregion⟩ hnot
    · exact absurd ⟨partition, hiso ▸ List.prefix_append .., hregion⟩ hnot

/-! ## Zones -/

theorem consistent_zonePattern : zonePattern.Consistent := by
  simp [zonePattern, Consistent]

/-- The name of a zone is that of a region and a letter. -/
theorem accepts_zonePattern_iff : zonePattern.accepts zone = true ↔
    ∃ region letter, zone = region.push letter ∧ letter.isLower = true ∧
      ∃ partition, (partition = [] ∨ partition = "-gov".toList) ∧ IsRegionOf partition region := by
  have hhyphen : "-".toList = ['-'] := rfl
  rw [accepts_iff consistent_zonePattern]
  simp only [zonePattern, sequence_cons, sequence_nil, matches_cat, matches_times_set,
    matches_optional, matches_literal, matches_atLeastOnce_set, matches_set, matches_epsilon,
    hhyphen, Within, CharSet.contains_lower, CharSet.contains_digit]
  constructor
  · rintro ⟨area, -, htext, harea, partition, -, rfl, hpartition, -, -, rfl, rfl,
      direction, -, rfl, hdirection, -, -, rfl, rfl, -, -, rfl, ⟨number, rfl, hnumber⟩,
      -, -, rfl, ⟨letter, rfl, hletter⟩, rfl⟩
    refine ⟨String.ofList (area ++ (partition ++ '-' :: (direction ++ ['-', number]))), letter,
      ?_, hletter, partition, hpartition, area, direction, number, String.toList_ofList, harea,
      hdirection, hnumber⟩
    rw [← String.toList_inj, htext]
    simp
  · rintro ⟨region, letter, rfl, hletter, partition, hpartition, area, direction, number, hregion,
      harea, hdirection, hnumber⟩
    refine ⟨area, partition ++ '-' :: (direction ++ ['-', number, letter]), ?_, harea,
      partition, _, rfl, hpartition, ['-'], _, rfl, rfl, direction, _, rfl, hdirection,
      ['-'], _, rfl, rfl, [number], _, rfl, ⟨number, rfl, hnumber⟩, [letter], [], rfl,
      ⟨letter, rfl, hletter⟩, rfl⟩
    rw [String.toList_push, hregion]
    simp

namespace Subnet

variable {subnet : Subnet}

/-- A zone is checked apart from all else, where it is not given twice. -/
theorem violations_zone_eq_nil_iff :
    { subnet with zone := some zone, zoneId := none }.violations = [] ↔
      { subnet with zone := none, zoneId := none }.violations = [] ∧
        (Interpolation.IsReference zone ∨ zonePattern.accepts zone = true) := by
  have hzone : { subnet with zone := some zone, zoneId := none }.checkZone = [] ↔
      Interpolation.IsReference zone ∨ zonePattern.accepts zone = true := by
    simp [checkZone]
  have hnone : { subnet with zone := none, zoneId := none }.checkZone = [] := rfl
  simp only [violations, List.append_eq_nil_iff, hzone, hnone]
  constructor
  · rintro ⟨⟨⟨⟨hid, hblock⟩, haccepted⟩, haddresses⟩, htags⟩
    exact ⟨⟨⟨⟨⟨hid, hblock⟩, trivial⟩, haddresses⟩, htags⟩, haccepted⟩
  · rintro ⟨⟨⟨⟨⟨hid, hblock⟩, -⟩, haddresses⟩, htags⟩, haccepted⟩
    exact ⟨⟨⟨⟨hid, hblock⟩, haccepted⟩, haddresses⟩, htags⟩

/-- **A subnet that is accepted without a zone is accepted in a zone exactly if the zone
is an accepted region with a letter after it, and the region is not isolated.** -/
theorem validate_zone_iff (h : ¬Interpolation.IsReference zone) :
    Resource.validate { subnet with zone := some zone, zoneId := none } = .ok () ↔
      Resource.validate { subnet with zone := none, zoneId := none } = .ok () ∧
        ∃ region letter, zone = region.push letter ∧ letter.isLower = true ∧
          Region.check region = .ok () ∧ ¬IsIsolated region := by
  have hchecked : ∀ {subnet : Subnet},
      Resource.validate subnet = .ok () ↔ subnet.violations = [] := Resource.validate_eq_ok_iff
  simp only [hchecked, violations_zone_eq_nil_iff, h, false_or, accepts_zonePattern_iff,
    exists_reached_iff, Region.check_eq_ok_iff]

/-- A subnet of which no zone is given. -/
def anywhereSubnet : Subnet :=
  .ofBlock (Interpolation.ofResource "aws_vpc" "main" "id") "10.0.1.0/24"

theorem validate_anywhereSubnet : Resource.validate anywhereSubnet = .ok () :=
  Resource.validate_eq_ok_iff.mpr (by decide +kernel)

theorem validate_zone_government : ¬Interpolation.IsReference "us-gov-west-1a" ∧
    Resource.validate { anywhereSubnet with zone := some "us-gov-west-1a", zoneId := none } =
      .ok () ∧
    ∃ region letter, "us-gov-west-1a" = region.push letter ∧ letter.isLower = true ∧
      Region.check region = .ok () ∧ ¬IsIsolated region := by
  have hliteral : ¬Interpolation.IsReference "us-gov-west-1a" := by
    rw [← Interpolation.isInterpolation_iff]
    decide
  have hzone : Resource.validate
      { anywhereSubnet with zone := some "us-gov-west-1a", zoneId := none } = .ok () :=
    Resource.validate_eq_ok_iff.mpr (by decide +kernel)
  exact ⟨hliteral, hzone, ((validate_zone_iff hliteral).mp hzone).2⟩

/-- The zone of an isolated region is turned down, though the region is accepted. -/
theorem validate_isolatedZone : ¬Interpolation.IsReference "us-iso-east-1a" ∧
    Region.check "us-iso-east-1" = .ok () ∧
    "us-iso-east-1a" = "us-iso-east-1".push 'a' ∧ 'a'.isLower = true ∧
    Resource.validate anywhereSubnet = .ok () ∧
    Resource.validate { anywhereSubnet with zone := some "us-iso-east-1a" } ≠ .ok () := by
  refine ⟨?_, by decide +kernel, by decide, rfl, validate_anywhereSubnet, fun h => ?_⟩
  · rw [← Interpolation.isInterpolation_iff]
    decide
  · have hviolations := Resource.validate_eq_ok_iff.mp h
    revert hviolations
    decide +kernel

end Subnet

end InfraSynth.Aws

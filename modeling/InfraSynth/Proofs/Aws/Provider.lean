import InfraSynth.Aws.Provider
import InfraSynth.Proofs.Block
import InfraSynth.Proofs.Collection
import InfraSynth.Proofs.Pattern.Shapes

/-!
# Regions, and what the provider is set up with

`IsRegion` spells out the form of the name of a region, and `Region.check` turns
down exactly the other texts.  The region, the profile and the tags of the provider
are looked up in its settings.
-/

namespace InfraSynth

/-! ## Which texts are regions -/

namespace Aws

open Pattern

/-- The partition in the name of a region: none, `-gov`, or `-iso` and perhaps a
letter. -/
def IsPartition (partition : List Char) : Prop :=
  partition = [] ∨ partition = "-gov".toList ∨ partition = "-iso".toList ∨
    ∃ letter, partition = "-iso".toList ++ [letter] ∧ letter.isLower = true

/-- The name of a region: an area of two letters, a partition, a direction and a
digit, which need not be one of ASCII. -/
def IsRegion (region : String) : Prop :=
  ∃ (area partition direction : List Char) (number : Char),
    region.toList = area ++ (partition ++ '-' :: (direction ++ ['-', number])) ∧
    (area.length = 2 ∧ ∀ c ∈ area, c.isLower = true) ∧
    IsPartition partition ∧
    (direction ≠ [] ∧ ∀ c ∈ direction, c.isLower = true) ∧
    Unicode.isDigit number = true

namespace Region

theorem consistent_pattern : pattern.Consistent := by
  simp [pattern, Consistent]

theorem matches_partition_iff {before after : Option Char} {partition : List Char} :
    (optional (.alt (.literal "-gov")
      (.cat (.literal "-iso") (.optional (.set .lower))))).Matches before partition after ↔
      IsPartition partition := by
  simp only [matches_optional, matches_alt, matches_literal, matches_cat, matches_set,
    CharSet.contains_lower, IsPartition]
  constructor
  · rintro (hnone | hgov | ⟨-, last, rfl, rfl, hnoLetter | ⟨letter, rfl, hletter⟩⟩)
    · exact Or.inl hnone
    · exact Or.inr (Or.inl hgov)
    · rw [hnoLetter, List.append_nil]
      exact Or.inr (Or.inr (Or.inl rfl))
    · exact Or.inr (Or.inr (Or.inr ⟨letter, rfl, hletter⟩))
  · rintro (hnone | hgov | hiso | ⟨letter, hiso, hletter⟩)
    · exact Or.inl hnone
    · exact Or.inr (Or.inl hgov)
    · exact Or.inr (Or.inr ⟨partition, [], (List.append_nil _).symm, hiso, Or.inl rfl⟩)
    · exact Or.inr (Or.inr ⟨_, [letter], hiso, rfl, Or.inr ⟨letter, rfl, hletter⟩⟩)

theorem accepts_pattern_iff {region : String} :
    pattern.accepts region = true ↔ IsRegion region := by
  have hhyphen : "-".toList = ['-'] := rfl
  rw [accepts_iff consistent_pattern]
  simp only [pattern, sequence_cons, sequence_nil, matches_cat, matches_times_set,
    matches_partition_iff, matches_literal, matches_atLeastOnce_set, matches_set, matches_epsilon,
    hhyphen, Within, CharSet.contains_lower, CharSet.contains_digit]
  constructor
  · rintro ⟨area, -, htext, harea, partition, -, rfl, hpartition, -, -, rfl, rfl,
      direction, -, rfl, hdirection, -, -, rfl, rfl, -, -, rfl, ⟨number, rfl, hnumber⟩, rfl⟩
    exact ⟨area, partition, direction, number, htext, harea, hpartition, hdirection, hnumber⟩
  · rintro ⟨area, partition, direction, number, htext, harea, hpartition, hdirection, hnumber⟩
    exact ⟨area, _, htext, harea, partition, _, rfl, hpartition, ['-'], _, rfl, rfl,
      direction, _, rfl, hdirection, ['-'], _, rfl, rfl, [number], [], rfl, ⟨number, rfl, hnumber⟩,
      rfl⟩

theorem check_eq_ok_iff {region : String} : check region = .ok () ↔ IsRegion region := by
  rw [← accepts_pattern_iff, check]
  split <;> simp_all

end Region

end Aws

/-! ## The settings of the provider -/

/-- The value of a tag that the provider applies to every resource. -/
def Provider.tag? (provider : Provider) (key : String) : Option Json :=
  ((provider.settings.get? "default_tags").bind (·.get? "tags")).bind (·.get? key)

namespace Aws

variable {region : String} {profile : Option String} {tags : TextMap}

theorem get?_provider_region :
    (provider region profile tags).settings.get? "region" = some (.string region) := by
  simp [provider]

theorem get?_provider_profile :
    (provider region profile tags).settings.get? "profile" = profile.map .string := by
  simp [provider]

theorem tag?_provider {key : String} :
    (provider region profile tags).tag? key = (tags.get? key).map .string := by
  rw [Provider.tag?]
  by_cases htags : tags.isEmpty = true
  · have hnil : tags.entries = [] := by simpa [SortedMap.isEmpty] using htags
    simp [provider, htags, SortedMap.get?, hnil, Entries.get?]
  · have hsettings : (provider region profile tags).settings.get? "default_tags" =
        some (Block.empty.map "tags" tags).toJson := by
      simp [provider, htags]
    rw [hsettings, Block.map, if_neg htags]
    exact Entries.get?_map Json.string

end Aws

end InfraSynth

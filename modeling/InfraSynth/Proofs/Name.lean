import InfraSynth.Name
import InfraSynth.Proofs.Pattern.Shapes

/-!
# Which names are allowed

`Name.IsAllowed` spells out the form of a name, character by character, and
`Name.check` turns down exactly the other texts.
-/

namespace InfraSynth.Name

open Pattern

/-- An ASCII letter or an underscore, and then letters, digits, underscores and
hyphens. -/
def IsAllowed (name : String) : Prop :=
  ∃ first rest, name.toList = first :: rest ∧ (first.isAlpha = true ∨ first = '_') ∧
    ∀ c ∈ rest, c.isAlphanum = true ∨ c = '_' ∨ c = '-'

theorem accepts_pattern_iff {name : String} : pattern.accepts name = true ↔ IsAllowed name := by
  have hpattern : pattern.Consistent := by simp [pattern]
  have hsigns : "_-".toList = ['_', '-'] := rfl
  rw [accepts_iff hpattern]
  simp only [pattern, matches_cat, matches_set, matches_many_set, Within, CharSet.contains_union,
    CharSet.contains_letter, CharSet.contains_alphanumeric, CharSet.contains_single,
    CharSet.contains_ofText, hsigns, List.mem_cons, List.not_mem_nil, or_false]
  constructor
  · rintro ⟨-, rest, htext, ⟨first, rfl, hfirst⟩, hrest⟩
    exact ⟨first, rest, htext, hfirst, hrest⟩
  · rintro ⟨first, rest, htext, hfirst, hrest⟩
    exact ⟨[first], rest, htext, ⟨first, rfl, hfirst⟩, hrest⟩

theorem check_eq_ok_iff {name : String} : check name = .ok () ↔ IsAllowed name := by
  rw [← accepts_pattern_iff, check]
  split <;> simp_all

end InfraSynth.Name

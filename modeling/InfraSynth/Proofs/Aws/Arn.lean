import InfraSynth.Aws.Arn
import InfraSynth.Proofs.Check
import InfraSynth.Proofs.Pattern.Shapes

/-!
# Which texts are resource names

`IsArn` spells out the form of an Amazon Resource Name, and `checkArn` is passed
by such names and by interpolations.
-/

namespace InfraSynth.Aws

open Pattern

/-- A resource name: `arn:aws` and the rest of the partition, then service,
region, account and resource, each after a colon.  Region and account may be
empty, and an account has twelve digits or is `aws` itself. -/
def IsArn (value : String) : Prop :=
  ∃ partition service region account resource : List Char,
    value.toList = "arn:aws".toList ++ (partition ++ ':' :: (service ++ ':' :: (region ++
      ':' :: (account ++ ':' :: resource)))) ∧
    (∀ c ∈ partition, c.isAlpha = true ∨ c = '-') ∧
    (service ≠ [] ∧ ∀ c ∈ service, c.isAlphanum = true ∨ c = '-') ∧
    (∀ c ∈ region, c.isLower = true ∨ c.isDigit = true ∨ c = '-') ∧
    (account = [] ∨ (account.length = 12 ∧ ∀ c ∈ account, Unicode.isDigit c = true) ∨
      account = ['a', 'w', 's']) ∧
    (resource ≠ [] ∧ ∀ c ∈ resource, c ≠ '\n')

theorem consistent_arnPattern : arnPattern.Consistent := by
  simp [arnPattern, Consistent]

theorem accepts_arnPattern_iff {value : String} : arnPattern.accepts value = true ↔ IsArn value := by
  have hcolon : ":".toList = [':'] := rfl
  have haws : "aws".toList = ['a', 'w', 's'] := rfl
  rw [accepts_iff consistent_arnPattern]
  simp only [arnPattern, sequence_cons, sequence_nil, matches_cat,
    matches_many_set, matches_atLeastOnce_set, matches_optional, matches_alt, matches_times_set,
    matches_literal, matches_epsilon, hcolon, haws, Within, CharSet.contains_union,
    CharSet.contains_unions, CharSet.contains_letter, CharSet.contains_alphanumeric,
    CharSet.contains_single, CharSet.contains_digit, CharSet.contains_complement]
  constructor
  · rintro ⟨-, -, htext, rfl, partition, -, rfl, hpartition, -, -, rfl, rfl,
      service, -, rfl, hservice, -, -, rfl, rfl, region, -, rfl, hregion, -, -, rfl, rfl,
      account, -, rfl, haccount, -, -, rfl, rfl, resource, -, rfl, hresource, rfl⟩
    refine ⟨partition, service, region, account, resource, by simpa using htext, hpartition,
      hservice, fun c hc => ?_, haccount, hresource⟩
    simpa using hregion c hc
  · rintro ⟨partition, service, region, account, resource, htext, hpartition, hservice, hregion,
      haccount, hresource⟩
    refine ⟨_, _, htext, rfl, partition, _, rfl, hpartition, [':'], _, rfl, rfl,
      service, _, rfl, hservice, [':'], _, rfl, rfl, region, _, rfl, fun c hc => ?_,
      [':'], _, rfl, rfl, account, _, rfl, haccount, [':'], _, rfl, rfl,
      resource, [], (List.append_nil _).symm, hresource, rfl⟩
    simpa using hregion c hc

/-- A field that holds a resource name may hold an interpolation instead. -/
@[simp] theorem checkArn_eq_nil_iff {field value : String} :
    checkArn field value = [] ↔ Interpolation.IsReference value ∨ IsArn value := by
  rw [checkArn, Check.formatOrReference_eq_nil_iff, accepts_arnPattern_iff]

theorem checkArn_of_isReference {field value : String} (h : Interpolation.IsReference value) :
    checkArn field value = [] :=
  checkArn_eq_nil_iff.mpr (.inl h)

end InfraSynth.Aws

import InfraSynth.Proofs.Outcome
import InfraSynth.Resource

/-!
# Reading resources

A value is turned into attributes in two steps: it is decoded, and what was
decoded is checked.  The first step that fails gives the error.
-/

namespace InfraSynth.Resource

variable {α : Type} [Resource α] {value : Json} {attributes : α}

theorem decode_eq_ok_iff :
    decode value = .ok attributes ↔ (record : JsonRecord α).read value = .ok attributes := by
  rw [decode]
  split <;> simp_all

theorem validate_eq_ok_iff : validate attributes = .ok () ↔ (check attributes).violations = [] := by
  simp [validate, Report.isAccepted]

theorem ofJson_eq_ok_iff : ofJson value = .ok attributes ↔
    (record : JsonRecord α).read value = .ok attributes ∧ (check attributes).violations = [] := by
  rw [ofJson, Outcome.bind_eq_ok_iff]
  constructor
  · rintro ⟨decoded, hread, h⟩
    obtain ⟨_, hcheck, h⟩ := Outcome.bind_eq_ok_iff.mp h
    cases h
    exact ⟨decode_eq_ok_iff.mp hread, validate_eq_ok_iff.mp hcheck⟩
  · rintro ⟨hread, hcheck⟩
    refine ⟨attributes, decode_eq_ok_iff.mpr hread, ?_⟩
    rw [validate_eq_ok_iff.mpr hcheck]
    rfl

end InfraSynth.Resource

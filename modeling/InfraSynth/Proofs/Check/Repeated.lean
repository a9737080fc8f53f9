import InfraSynth.Proofs.Check
import InfraSynth.Proofs.Collection.Occurrence
import Mathlib

/-!
# What is reported of repetitions

A list whose values should differ is gone through once.  The search remembers the values
it has seen and those it has found again, and it lists a value when it comes for the
second time.  That is an invariant, `listsOccurrences_append_repetitions`, and for the
whole list it says that the values with a second occurrence are listed in the order of
these occurrences.

Numbers are compared by their texts.  Different integers are written differently, so the
texts are repeated as the numbers are, `repetitions_map`.
-/

namespace InfraSynth.Check

variable {field : String} {α : Type} [BEq α] [LawfulBEq α]

/-- The search for repetitions, with a part of the list behind it: it has seen the values
of that part, and it has found those that the part repeats. -/
theorem listsOccurrences_append_repetitions {front seen found listed : List α} (rest : List α)
    (hseen : ∀ x, x ∈ seen ↔ x ∈ front) (hfound : ∀ x, x ∈ found ↔ x ∈ listed)
    (hlisted : ListsOccurrences 1 front listed) :
    ListsOccurrences 1 (front ++ rest) (listed ++ repetitions seen found rest) := by
  induction rest generalizing front seen found listed with
  | nil => simpa [repetitions] using hlisted
  | cons x rest ih =>
      rw [List.append_cons]
      by_cases hx : x ∈ seen
      · have hpos : 0 < front.count x := List.count_pos_iff.mpr ((hseen x).mp hx)
        have hseen' : ∀ y, y ∈ seen ↔ y ∈ front ++ [x] := by
          intro y
          rw [List.mem_append, List.mem_singleton, hseen]
          exact ⟨Or.inl, fun h => h.elim id fun heq => heq ▸ (hseen x).mp hx⟩
        by_cases hagain : x ∈ found
        · have hcount : 1 < front.count x := (hlisted.mem_iff x).mp ((hfound x).mp hagain)
          have hne : front.count x ≠ 1 := by omega
          simpa [repetitions, hx, hagain] using ih hseen' hfound (hlisted.append_of_count_ne hne)
        · -- this is the second occurrence
          have hcount : ¬1 < front.count x := fun h =>
            hagain ((hfound x).mpr ((hlisted.mem_iff x).mpr h))
          have hone : front.count x = 1 := by omega
          have hfound' : ∀ y, y ∈ x :: found ↔ y ∈ listed ++ [x] := by
            intro y
            rw [List.mem_cons, List.mem_append, List.mem_singleton, hfound, or_comm]
          simpa [repetitions, hx, hagain] using ih hseen' hfound' (hlisted.append_of_count_eq hone)
      · have hzero : front.count x = 0 := List.count_eq_zero.mpr fun h => hx ((hseen x).mpr h)
        have hseen' : ∀ y, y ∈ x :: seen ↔ y ∈ front ++ [x] := by
          intro y
          rw [List.mem_cons, List.mem_append, List.mem_singleton, hseen, or_comm]
        have hne : front.count x ≠ 1 := by omega
        simpa [repetitions, hx] using ih hseen' hfound (hlisted.append_of_count_ne hne)

theorem listsOccurrences_repetitions (values : List α) :
    ListsOccurrences 1 values (repetitions [] [] values) :=
  listsOccurrences_append_repetitions values (fun _ => Iff.rfl) (fun _ => Iff.rfl) .nil

/-- Values that are written differently are repeated as their texts are. -/
theorem repetitions_map {text : α → String} (htext : Function.Injective text)
    (seen found values : List α) :
    repetitions (seen.map text) (found.map text) (values.map text) =
      (repetitions seen found values).map text := by
  induction values generalizing seen found with
  | nil => rfl
  | cons x rest ih =>
      have hseen : (seen.map text).contains (text x) = seen.contains x := by
        rw [Bool.eq_iff_iff, List.contains_iff_mem, List.contains_iff_mem,
          List.mem_map_of_injective htext]
      have hfound : (found.map text).contains (text x) = found.contains x := by
        rw [Bool.eq_iff_iff, List.contains_iff_mem, List.contains_iff_mem,
          List.mem_map_of_injective htext]
      simp only [List.map_cons, repetitions, hseen, hfound]
      split
      · split
        · exact ih seen found
        · rw [List.map_cons, ← ih seen (x :: found), List.map_cons]
      · exact ih (x :: seen) found

/-- Nothing is reported of a list without repetitions, and otherwise one violation, whose
message lists the values that occur at least twice, each once, as they occur for the second
time. -/
structure ReportsRepeated [ToString α] (field : String) (values : List α)
    (violations : List Violation) : Prop where
  eq_nil_iff : violations = [] ↔ values.Nodup
  eq_singleton : ¬values.Nodup → ∃ repeated, ListsOccurrences 1 values repeated ∧
    violations =
      [⟨.unique, field, "duplicate values: " ++ ", ".intercalate (repeated.map toString)⟩]

theorem reportsRepeated_of_injective [ToString α]
    (htext : Function.Injective (toString : α → String)) (values : List α) :
    ReportsRepeated field values (unique field (values.map toString)) := by
  have hnil : unique field (values.map toString) = [] ↔ values.Nodup := by
    rw [unique_eq_nil_iff, List.nodup_map_iff htext]
  refine ⟨hnil, fun hrepeats => ⟨_, listsOccurrences_repetitions values, ?_⟩⟩
  have hmap : repetitions [] [] (values.map toString) = (repetitions [] [] values).map toString :=
    repetitions_map htext [] [] values
  rw [unique, hmap, that, if_neg]
  · rfl
  · intro hempty
    refine hrepeats (hnil.mp ?_)
    rw [unique, hmap, that, if_pos hempty]

/-- **Of a list of texts or of integers the repeated values are reported**, each once and in
the order of the second occurrences, and nothing else is. -/
theorem unique_reportsRepeated (field : String) :
    (∀ values : List String, ReportsRepeated field values (unique field values)) ∧
      ∀ values : List Int, ReportsRepeated field values (unique field (values.map toString)) := by
  constructor
  · intro values
    have htexts : values.map toString = values := List.map_id values
    have hreports : ReportsRepeated field values (unique field (values.map toString)) :=
      reportsRepeated_of_injective (fun _ _ h => h) values
    rwa [htexts] at hreports
  · intro values
    exact reportsRepeated_of_injective (fun _ _ => Int.repr_inj.mp) values

example : unique "rule.name" ["b", "a", "a", "b", "a"] =
    [⟨.unique, "rule.name", "duplicate values: a, b"⟩] := by
  decide

end InfraSynth.Check

import Mathlib.Data.List.Induction
import Mathlib.Data.List.Nodup

/-!
# Occurrences in lists

A value that occurs more than `n` times in a list has one occurrence with exactly `n`
others before it.  `ListsOccurrences n values listed` says that a list holds these
values, each once, in the order of these occurrences: for `n = 0` they are the values
as they first come, and for `n = 1` those that are repeated, as they come again.

The values are found by going through the list once.  The steps are
`ListsOccurrences.append_of_count_eq`, where the next item is listed, and
`ListsOccurrences.append_of_count_ne`, where it is not.
-/

namespace InfraSynth

variable {α : Type} [BEq α] {n i : Nat} {x : α} {values listed : List α}

/-- The value stands at a place, and `n` times before it. -/
def IsOccurrence (n : Nat) (values : List α) (i : Nat) (x : α) : Prop :=
  values[i]? = some x ∧ (values.take i).count x = n

/-- The values that occur more than `n` times, each once, in the order of the
occurrences that have `n` others before them. -/
structure ListsOccurrences (n : Nat) (values listed : List α) : Prop where
  nodup : listed.Nodup
  mem_iff : ∀ x, x ∈ listed ↔ n < values.count x
  ordered : listed.Pairwise fun x y =>
    ∃ i j, i < j ∧ IsOccurrence n values i x ∧ IsOccurrence n values j y

theorem IsOccurrence.lt_length (h : IsOccurrence n values i x) : i < values.length :=
  (List.getElem?_eq_some_iff.mp h.1).1

/-- What comes later leaves an occurrence as it is. -/
theorem IsOccurrence.append (h : IsOccurrence n values i x) (more : List α) :
    IsOccurrence n (values ++ more) i x := by
  have hi : i < values.length := h.lt_length
  constructor
  · rw [List.getElem?_append_left hi]
    exact h.1
  · rw [List.take_append_of_le_length (Nat.le_of_lt hi)]
    exact h.2

theorem isOccurrence_append_singleton (h : values.count x = n) :
    IsOccurrence n (values ++ [x]) values.length x := by
  constructor
  · rw [List.getElem?_append_right (Nat.le_refl _), Nat.sub_self]
    rfl
  · rw [List.take_append_of_le_length (Nat.le_refl _), List.take_length]
    exact h

theorem ListsOccurrences.nil : ListsOccurrences n ([] : List α) [] :=
  ⟨List.nodup_nil, fun x => by simp, .nil⟩

variable [LawfulBEq α]

theorem exists_isOccurrence (h : n < values.count x) : ∃ i, IsOccurrence n values i x := by
  induction values using List.reverseRecOn with
  | nil => simp at h
  | append_singleton front y ih =>
      by_cases hfront : n < front.count x
      · obtain ⟨i, hi⟩ := ih hfront
        exact ⟨i, hi.append [y]⟩
      · -- the last item is the occurrence
        rw [List.count_append, List.count_singleton] at h
        split at h
        · rename_i hxy
          obtain rfl : y = x := eq_of_beq hxy
          exact ⟨front.length, isOccurrence_append_singleton (by omega)⟩
        · omega

namespace ListsOccurrences

/-- The next item has `n` others before it. -/
theorem append_of_count_eq (h : ListsOccurrences n values listed) (hx : values.count x = n) :
    ListsOccurrences n (values ++ [x]) (listed ++ [x]) := by
  have hnot : x ∉ listed := fun hmem => by
    have := (h.mem_iff x).mp hmem
    omega
  refine ⟨?_, fun y => ?_, ?_⟩
  · rw [← List.concat_eq_append, List.nodup_concat]
    exact ⟨hnot, h.nodup⟩
  · rw [List.mem_append, List.mem_singleton, h.mem_iff, List.count_append, List.count_singleton]
    by_cases hy : y = x
    · subst hy
      simp [hx]
    · simp [hy, Ne.symm hy]
  · refine List.pairwise_append.mpr ⟨?_, List.pairwise_singleton .., fun y hy z hz => ?_⟩
    · refine h.ordered.imp ?_
      rintro y z ⟨i, j, hij, hi, hj⟩
      exact ⟨i, j, hij, hi.append [x], hj.append [x]⟩
    · obtain rfl := List.mem_singleton.mp hz
      obtain ⟨i, hi⟩ := exists_isOccurrence ((h.mem_iff y).mp hy)
      exact ⟨i, values.length, hi.lt_length, hi.append [z], isOccurrence_append_singleton hx⟩

/-- The next item has more than `n` others before it, or fewer. -/
theorem append_of_count_ne (h : ListsOccurrences n values listed) (hx : values.count x ≠ n) :
    ListsOccurrences n (values ++ [x]) listed := by
  refine ⟨h.nodup, fun y => ?_, ?_⟩
  · rw [h.mem_iff, List.count_append, List.count_singleton]
    split
    · rename_i hxy
      obtain rfl : x = y := eq_of_beq hxy
      omega
    · rfl
  · refine h.ordered.imp ?_
    rintro y z ⟨i, j, hij, hi, hj⟩
    exact ⟨i, j, hij, hi.append [x], hj.append [x]⟩

end ListsOccurrences

end InfraSynth

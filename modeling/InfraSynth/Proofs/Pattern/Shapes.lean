import InfraSynth.Proofs.Pattern.Matching

/-!
# Patterns of common shapes

The texts matched by runs of characters from a set, by literal texts, by
options and by sequences.  With these a check of a format is read as a
statement about the characters of the text, and `Pattern.Matches` need not be
unfolded.
-/

namespace InfraSynth

/-! ## Sets of characters -/

namespace CharSet

theorem contains_range {low high c : Char} :
    (range low high).contains c = true ↔ low ≤ c ∧ c ≤ high := by
  simp [contains]

@[simp] theorem contains_single {c d : Char} : (single c).contains d = true ↔ d = c := by
  rw [single, contains_range]
  exact ⟨fun h => Char.le_antisymm h.2 h.1, fun h => h ▸ ⟨Char.le_refl _, Char.le_refl _⟩⟩

@[simp] theorem contains_lower {c : Char} : lower.contains c = true ↔ c.isLower = true := by
  have hlower : c.isLower = (decide ('a'.val ≤ c.val) && decide (c.val ≤ 'z'.val)) := rfl
  rw [lower, contains_range, hlower]
  simp [Char.le_def]

@[simp] theorem contains_upper {c : Char} : upper.contains c = true ↔ c.isUpper = true := by
  have hupper : c.isUpper = decide ('A'.val ≤ c.val ∧ c.val ≤ 'Z'.val) := rfl
  rw [upper, contains_range, hupper]
  simp [Char.le_def]

@[simp] theorem contains_asciiDigit {c : Char} :
    asciiDigit.contains c = true ↔ c.isDigit = true := by
  rw [asciiDigit, contains_range]
  simp [Char.isDigit, Char.le_def]

@[simp] theorem contains_union {first second : CharSet} {c : Char} :
    (union first second).contains c = true ↔
      first.contains c = true ∨ second.contains c = true := by
  simp [contains]

@[simp] theorem contains_complement {set : CharSet} {c : Char} :
    (complement set).contains c = true ↔ ¬set.contains c = true := by
  simp [contains]

@[simp] theorem contains_letter {c : Char} : letter.contains c = true ↔ c.isAlpha = true := by
  have halpha : c.isAlpha = (c.isUpper || c.isLower) := rfl
  simp only [letter, contains_union, contains_lower, contains_upper, halpha, Bool.or_eq_true]
  exact or_comm

@[simp] theorem contains_alphanumeric {c : Char} :
    alphanumeric.contains c = true ↔ c.isAlphanum = true := by
  simp only [alphanumeric, contains_union, contains_letter, contains_asciiDigit,
    Char.isAlphanum, Bool.or_eq_true]

@[simp] theorem contains_unions {sets : List CharSet} {c : Char} :
    (unions sets).contains c = true ↔ ∃ set ∈ sets, set.contains c = true := by
  induction sets with
  | nil => simp [unions, contains]
  | cons set rest ih =>
      have : unions (set :: rest) = union set (unions rest) := rfl
      rw [this, contains_union, ih]
      simp

@[simp] theorem contains_ofText {text : String} {c : Char} :
    (ofText text).contains c = true ↔ c ∈ text.toList := by
  rw [ofText, contains_unions]
  constructor
  · rintro ⟨set, hset, hc⟩
    obtain ⟨d, hd, rfl⟩ := List.mem_map.mp hset
    exact contains_single.mp hc ▸ hd
  · intro hc
    exact ⟨single c, List.mem_map_of_mem hc, contains_single.mpr rfl⟩

@[simp] theorem contains_digit {c : Char} :
    digit.contains c = true ↔ Unicode.isDigit c = true :=
  Iff.rfl

/-- Whether a set is given by ASCII characters only. -/
def isWithinAscii : CharSet → Bool
  | empty => true
  | range _ high => high.toNat < 128
  | union first second => first.isWithinAscii && second.isWithinAscii
  | _ => false

theorem toNat_lt_of_isWithinAscii {chars : CharSet} {c : Char} (h : chars.isWithinAscii = true)
    (hc : chars.contains c = true) : c.toNat < 128 := by
  induction chars with
  | empty => cases hc
  | range low high =>
      have hhigh : high.toNat < 128 := of_decide_eq_true h
      exact Nat.lt_of_le_of_lt (UInt32.le_iff_toNat_le.mp (contains_range.mp hc).2) hhigh
  | union first second ihFirst ihSecond =>
      simp only [isWithinAscii, Bool.and_eq_true] at h
      exact (contains_union.mp hc).elim (ihFirst h.1) (ihSecond h.2)
  | digit | space | word | property _ | folded _ _ | inter _ _ _ _ | complement _ _ => cases h

end CharSet

namespace Pattern

variable {before after : Option Char} {text : List Char}

/-! ## Characters and literal texts -/

@[simp] theorem matches_set {chars : CharSet} :
    (set chars).Matches before text after ↔ ∃ c, text = [c] ∧ chars.contains c = true :=
  Iff.rfl

@[simp] theorem matches_epsilon : epsilon.Matches before text after ↔ text = [] :=
  Iff.rfl

theorem matches_cat {p q : Pattern} :
    (cat p q).Matches before text after ↔ ∃ first rest, text = first ++ rest ∧
      p.Matches before first (rest.head?.or after) ∧
      q.Matches (first.getLast?.or before) rest after :=
  Iff.rfl

@[simp] theorem matches_alt {p q : Pattern} :
    (alt p q).Matches before text after ↔
      p.Matches before text after ∨ q.Matches before text after :=
  Iff.rfl

@[simp] theorem consistent_set {chars : CharSet} : (set chars).Consistent :=
  trivial

@[simp] theorem consistent_cat {p q : Pattern} :
    (cat p q).Consistent ↔ p.Consistent ∧ q.Consistent :=
  Iff.rfl

@[simp] theorem consistent_alt {p q : Pattern} :
    (alt p q).Consistent ↔ p.Consistent ∧ q.Consistent :=
  Iff.rfl

@[simp] theorem sequence_nil : sequence [] = epsilon :=
  rfl

@[simp] theorem sequence_cons {p : Pattern} {rest : List Pattern} :
    sequence (p :: rest) = cat p (sequence rest) :=
  rfl

theorem consistent_sequence {patterns : List Pattern} :
    (sequence patterns).Consistent ↔ ∀ p ∈ patterns, p.Consistent := by
  induction patterns with
  | nil => simp [Consistent]
  | cons p rest ih => simp [ih]

@[simp] theorem consistent_literal {literal : String} : (Pattern.literal literal).Consistent := by
  simp [Pattern.literal, consistent_sequence]

private theorem matches_sequence_chars {chars : List Char} :
    (sequence (chars.map fun c => set (.single c))).Matches before text after ↔ text = chars := by
  induction chars generalizing before text with
  | nil => rfl
  | cons c rest ih =>
      simp only [List.map_cons, sequence_cons, matches_cat, matches_set,
        CharSet.contains_single, ih]
      constructor
      · rintro ⟨first, remaining, rfl, ⟨d, rfl, rfl⟩, rfl⟩
        rfl
      · rintro rfl
        exact ⟨[c], rest, rfl, ⟨c, rfl, rfl⟩, rfl⟩

@[simp] theorem matches_literal {literal : String} :
    (Pattern.literal literal).Matches before text after ↔ text = literal.toList :=
  matches_sequence_chars

/-! ## Repetitions -/

/-- The characters of a text all belong to a set. -/
def Within (chars : CharSet) (text : List Char) : Prop :=
  ∀ c ∈ text, chars.contains c = true

theorem parts_set_iff {chars : CharSet} {n : Nat} :
    Parts (set chars).Matches n before text after ↔ text.length = n ∧ Within chars text := by
  induction n generalizing before text with
  | zero => simp only [Parts, Within, List.length_eq_zero_iff]; constructor <;> simp_all
  | succ n ih =>
      simp only [Parts, matches_set, ih]
      constructor
      · rintro ⟨first, rest, rfl, ⟨c, rfl, hc⟩, rfl, hrest⟩
        refine ⟨by simp, fun d hd => ?_⟩
        rcases List.mem_cons.mp hd with rfl | hd
        · exact hc
        · exact hrest d hd
      · rintro ⟨hlength, hall⟩
        cases text with
        | nil => simp at hlength
        | cons c rest =>
            exact ⟨[c], rest, rfl, ⟨c, rfl, hall c (List.mem_cons_self ..)⟩, by simpa using hlength,
              fun d hd => hall d (List.mem_cons_of_mem c hd)⟩

theorem matches_repeated {p : Pattern} {least : Nat} {most : Option Nat} :
    (repeated p least most).Matches before text after ↔ ∃ n, least ≤ n ∧
      (∀ bound ∈ most, n ≤ bound) ∧ Parts p.Matches n before text after :=
  Iff.rfl

theorem matches_repeated_set {chars : CharSet} {least : Nat} {most : Option Nat} :
    (repeated (set chars) least most).Matches before text after ↔
      least ≤ text.length ∧ (∀ bound ∈ most, text.length ≤ bound) ∧ Within chars text := by
  simp only [matches_repeated, parts_set_iff]
  constructor
  · rintro ⟨n, hleast, hmost, rfl, hall⟩
    exact ⟨hleast, hmost, hall⟩
  · rintro ⟨hleast, hmost, hall⟩
    exact ⟨text.length, hleast, hmost, rfl, hall⟩

@[simp] theorem matches_many_set {chars : CharSet} :
    (many (set chars)).Matches before text after ↔ Within chars text := by
  simp [many, matches_repeated_set]

@[simp] theorem matches_atLeastOnce_set {chars : CharSet} :
    (atLeastOnce (set chars)).Matches before text after ↔ text ≠ [] ∧ Within chars text := by
  simp [atLeastOnce, matches_repeated_set, Nat.one_le_iff_ne_zero]

@[simp] theorem matches_times_set {chars : CharSet} {count : Nat} :
    (times count (set chars)).Matches before text after ↔
      text.length = count ∧ Within chars text := by
  simp only [times, matches_repeated_set, Option.mem_some_iff, forall_eq']
  exact ⟨fun h => ⟨by omega, h.2.2⟩, fun h => ⟨by omega, by omega, h.2⟩⟩

@[simp] theorem matches_optional {p : Pattern} :
    (optional p).Matches before text after ↔ text = [] ∨ p.Matches before text after := by
  simp only [optional, matches_repeated, Option.mem_some_iff, forall_eq', Nat.zero_le, true_and]
  constructor
  · rintro ⟨n, hn, hparts⟩
    match n, hn, hparts with
    | 0, _, hparts => exact Or.inl hparts
    | 1, _, ⟨first, rest, htext, hfirst, hrest⟩ =>
        obtain rfl : rest = [] := hrest
        exact Or.inr (by simpa [htext] using hfirst)
  · rintro (rfl | h)
    · exact ⟨0, Nat.zero_le 1, rfl⟩
    · exact ⟨1, Nat.le_refl 1, text, [], by simp, by simpa using h, rfl⟩

@[simp] theorem consistent_many {p : Pattern} : (many p).Consistent ↔ p.Consistent := by
  simp [many, Consistent]

@[simp] theorem consistent_atLeastOnce {p : Pattern} :
    (atLeastOnce p).Consistent ↔ p.Consistent := by
  simp [atLeastOnce, Consistent]

@[simp] theorem consistent_times {p : Pattern} {count : Nat} :
    (times count p).Consistent ↔ p.Consistent := by
  simp [times, Consistent]

@[simp] theorem consistent_optional {p : Pattern} : (optional p).Consistent ↔ p.Consistent := by
  simp [optional, Consistent]

/-! ### The characters that are named -/

/-- The sets of characters that a pattern names. -/
def sets : Pattern → List CharSet
  | never | epsilon | assertion _ => []
  | set chars => [chars]
  | cat p q | alt p q => p.sets ++ q.sets
  | repeated p _ _ => p.sets

/-- Parts consist of the characters that each of them may consist of. -/
theorem forall_mem_of_parts {meaning : Meaning} {property : Char → Prop} {n : Nat}
    (hpart : ∀ before text after, meaning before text after → ∀ c ∈ text, property c)
    (h : Parts meaning n before text after) : ∀ c ∈ text, property c := by
  induction n generalizing before text with
  | zero =>
      obtain rfl : text = [] := h
      simp
  | succ n ih =>
      obtain ⟨first, rest, rfl, hfirst, hrest⟩ := h
      intro c hc
      rcases List.mem_append.mp hc with hc | hc
      · exact hpart _ _ _ hfirst c hc
      · exact ih hrest c hc

/-- **What a pattern matches consists of the characters that it names.** -/
theorem exists_mem_sets_of_matches {p : Pattern} (h : p.Matches before text after) :
    ∀ c ∈ text, ∃ chars ∈ p.sets, chars.contains c = true := by
  induction p generalizing before text after with
  | never => exact h.elim
  | epsilon =>
      obtain rfl : text = [] := h
      simp
  | set chars =>
      obtain ⟨c, rfl, hc⟩ := h
      simpa [sets] using hc
  | assertion claim =>
      obtain rfl : text = [] := h.1
      simp
  | cat p q ihp ihq =>
      obtain ⟨first, rest, rfl, hfirst, hrest⟩ := h
      intro c hc
      rcases List.mem_append.mp hc with hc | hc
      · obtain ⟨chars, hchars, hcontains⟩ := ihp hfirst c hc
        exact ⟨chars, List.mem_append_left _ hchars, hcontains⟩
      · obtain ⟨chars, hchars, hcontains⟩ := ihq hrest c hc
        exact ⟨chars, List.mem_append_right _ hchars, hcontains⟩
  | alt p q ihp ihq =>
      intro c hc
      rcases h with h | h
      · obtain ⟨chars, hchars, hcontains⟩ := ihp h c hc
        exact ⟨chars, List.mem_append_left _ hchars, hcontains⟩
      · obtain ⟨chars, hchars, hcontains⟩ := ihq h c hc
        exact ⟨chars, List.mem_append_right _ hchars, hcontains⟩
  | repeated p least most ih =>
      obtain ⟨n, -, -, hparts⟩ := h
      exact forall_mem_of_parts (fun _ _ _ hpart => ih hpart) hparts

end Pattern

end InfraSynth

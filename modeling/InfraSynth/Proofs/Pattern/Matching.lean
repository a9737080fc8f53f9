import InfraSynth.Pattern.Basic

/-!
# What patterns match

`Pattern.Matches` says what a pattern means, without derivatives: which texts
it matches where they stand between two characters.  The main result is
`accepts_iff`: `Pattern.accepts` decides exactly this.

## Strategy

An assertion looks at the characters around a place, so the meaning of a
pattern depends on the character `before` a text and the one `after` it.  Where
a text is split, the neighbours of the parts are the ends of the other part if
that is not empty.

A derivative is correct only for patterns whose repetitions have no upper bound
below their lower one: after `nullable`, a derivative no longer compares the
two.  These patterns are `Consistent`, and so are their derivatives.  For each
constructor a lemma says what the derivative of a pattern matches, given what
the derivatives of its parts match (`derivedFor_cat`, `derivedFor_repeated` and
so on), and `matches_derivative` is the induction with these as its cases.
-/

namespace InfraSynth.Pattern

/-- Between two characters, which of them being absent at an end of the text,
some texts are matched. -/
abbrev Meaning := (before : Option Char) → (text : List Char) → (after : Option Char) → Prop

/-- Texts that consist of a given number of parts with a meaning. -/
def Parts (meaning : Meaning) : Nat → Meaning
  | 0, _, text, _ => text = []
  | n + 1, before, text, after => ∃ first rest, text = first ++ rest ∧
      meaning before first (rest.head?.or after) ∧
      Parts meaning n (first.getLast?.or before) rest after

/-- The texts that a pattern matches. -/
def Matches : Pattern → Meaning
  | never, _, _, _ => False
  | epsilon, _, text, _ => text = []
  | set chars, _, text, _ => ∃ c, text = [c] ∧ chars.contains c = true
  | assertion claim, before, text, after => text = [] ∧ claim.holds ⟨before, after⟩ = true
  | cat p q, before, text, after => ∃ first rest, text = first ++ rest ∧
      p.Matches before first (rest.head?.or after) ∧
      q.Matches (first.getLast?.or before) rest after
  | alt p q, before, text, after => p.Matches before text after ∨ q.Matches before text after
  | repeated p least most, before, text, after => ∃ n, least ≤ n ∧ (∀ bound ∈ most, n ≤ bound) ∧
      Parts p.Matches n before text after

/-- No repetition has an upper bound below its lower one. -/
def Consistent : Pattern → Prop
  | never | epsilon | set _ | assertion _ => True
  | cat p q | alt p q => p.Consistent ∧ q.Consistent
  | repeated p least most => p.Consistent ∧ ∀ bound ∈ most, least ≤ bound

/-! ## The empty text -/

theorem parts_nil_iff {meaning : Meaning} {n : Nat} {before after : Option Char} :
    Parts meaning n before [] after ↔ n = 0 ∨ meaning before [] after := by
  induction n with
  | zero => simp [Parts]
  | succ n ih =>
      simp only [Parts, Nat.add_one_ne_zero, false_or]
      constructor
      · rintro ⟨first, rest, htext, hfirst, -⟩
        obtain ⟨rfl, rfl⟩ := List.append_eq_nil_iff.mp htext.symm
        exact hfirst
      · intro h
        exact ⟨[], [], rfl, h, ih.mpr (Or.inr h)⟩

theorem nullable_iff {p : Pattern} (hp : p.Consistent) {before after : Option Char} :
    p.nullable ⟨before, after⟩ = true ↔ p.Matches before [] after := by
  induction p with
  | never => simp [nullable, Matches]
  | epsilon => simp [nullable, Matches]
  | set chars => simp [nullable, Matches]
  | assertion claim => simp [nullable, Matches]
  | cat p q ihp ihq =>
      simp only [nullable, Bool.and_eq_true, ihp hp.1, ihq hp.2, Matches]
      constructor
      · rintro ⟨h₁, h₂⟩
        exact ⟨[], [], rfl, h₁, h₂⟩
      · rintro ⟨first, rest, htext, h₁, h₂⟩
        obtain ⟨rfl, rfl⟩ := List.append_eq_nil_iff.mp htext.symm
        exact ⟨h₁, h₂⟩
  | alt p q ihp ihq => simp [nullable, Matches, ihp hp.1, ihq hp.2]
  | repeated p least most ih =>
      simp only [nullable, Bool.or_eq_true, beq_iff_eq, ih hp.1, Matches, parts_nil_iff]
      constructor
      · rintro (rfl | h)
        · exact ⟨0, Nat.le_refl 0, fun _ _ => Nat.zero_le _, Or.inl rfl⟩
        · exact ⟨least, Nat.le_refl least, hp.2, Or.inr h⟩
      · rintro ⟨n, hleast, -, rfl | h⟩
        · exact Or.inl (Nat.le_zero.mp hleast)
        · exact Or.inr h

/-! ## The operations that build derivatives -/

theorem matches_append {p q : Pattern} {before after : Option Char} {text : List Char} :
    (append p q).Matches before text after ↔ (cat p q).Matches before text after := by
  unfold append
  split
  · simp [Matches]
  · simp [Matches]
  · simp only [Matches]
    constructor
    · intro h
      exact ⟨[], text, rfl, rfl, h⟩
    · rintro ⟨first, rest, rfl, rfl, h⟩
      exact h
  · simp only [Matches]
    constructor
    · intro h
      exact ⟨text, [], by simpa using h⟩
    · rintro ⟨first, rest, rfl, h, rfl⟩
      simpa using h
  · rfl

theorem consistent_append {p q : Pattern} (hp : p.Consistent) (hq : q.Consistent) :
    (append p q).Consistent := by
  unfold append
  split
  · trivial
  · trivial
  · exact hq
  · exact hp
  · exact ⟨hp, hq⟩

/-- An alternative of a pattern adds nothing to it. -/
theorem matches_of_isAlternativeOf {p q : Pattern} (h : p.isAlternativeOf q = true)
    {before after : Option Char} {text : List Char} (hp : p.Matches before text after) :
    q.Matches before text after := by
  induction q with
  | alt first second _ ih =>
      simp only [isAlternativeOf, Bool.or_eq_true, beq_iff_eq] at h
      rcases h with rfl | h
      · exact Or.inl hp
      · exact Or.inr (ih h)
  | _ =>
      simp only [isAlternativeOf, beq_iff_eq] at h
      exact h ▸ hp

theorem matches_either {p q : Pattern} {before after : Option Char} {text : List Char} :
    (either p q).Matches before text after ↔
      p.Matches before text after ∨ q.Matches before text after := by
  fun_induction either p q with
  | case1 second => simp [Matches]
  | case2 first rest second result halt ih =>
      simp only [Matches, or_assoc]
      constructor
      · intro h
        exact Or.inr (ih.mp h)
      · rintro (h | h)
        · exact matches_of_isAlternativeOf halt h
        · exact ih.mpr h
  | case3 first rest second result halt ih => simp only [Matches, result, ih, or_assoc]
  | case4 first => simp [Matches]
  | case5 first second _ _ _ halt =>
      exact ⟨Or.inr, fun h => h.elim (matches_of_isAlternativeOf halt) id⟩
  | case6 first second => rfl

theorem consistent_either {p q : Pattern} (hp : p.Consistent) (hq : q.Consistent) :
    (either p q).Consistent := by
  fun_induction either p q with
  | case1 => exact hq
  | case2 first rest second result _ ih => exact ih hp.2 hq
  | case3 first rest second result _ ih => exact ⟨hp.1, ih hp.2 hq⟩
  | case4 => exact hp
  | case5 => exact hq
  | case6 => exact ⟨hp, hq⟩

/-! ## Derivatives -/

theorem getLast?_cons_or {c : Char} {text : List Char} {before : Option Char} :
    (c :: text).getLast?.or before = text.getLast?.or (some c) := by
  cases text with
  | nil => rfl
  | cons d rest => simp [List.getLast?_cons]

/-- In a text that is not empty, some parts may be empty before the first one
that is not, and that one begins with the first character. -/
theorem parts_cons_iff {meaning : Meaning} {n : Nat} {before after : Option Char} {c : Char}
    {text : List Char} :
    Parts meaning n before (c :: text) after ↔
      ∃ k m, n = k + 1 + m ∧ (k = 0 ∨ meaning before [] (some c)) ∧
        ∃ first rest, text = first ++ rest ∧ meaning before (c :: first) (rest.head?.or after) ∧
          Parts meaning m (first.getLast?.or (some c)) rest after := by
  induction n with
  | zero =>
      simp only [Parts, reduceCtorEq, false_iff, not_exists, not_and]
      intro k m hn
      omega
  | succ n ih =>
      constructor
      · rintro ⟨first, rest, htext, hfirst, hrest⟩
        cases first with
        | nil =>
            -- one more empty part before the one with the character
            obtain rfl : c :: text = rest := htext
            obtain ⟨k, m, rfl, -, hparts⟩ := ih.mp hrest
            exact ⟨k + 1, m, by omega, Or.inr hfirst, hparts⟩
        | cons d first =>
            obtain ⟨rfl, rfl⟩ := List.cons.inj htext
            rw [getLast?_cons_or] at hrest
            exact ⟨0, n, by omega, Or.inl rfl, first, rest, rfl, hfirst, hrest⟩
      · rintro ⟨k, m, hn, hempty, first, rest, rfl, hfirst, hrest⟩
        cases k with
        | zero =>
            obtain rfl : n = m := by omega
            refine ⟨c :: first, rest, rfl, hfirst, ?_⟩
            rw [getLast?_cons_or]
            exact hrest
        | succ k =>
            have hc : meaning before [] (some c) := hempty.resolve_left (Nat.succ_ne_zero k)
            refine ⟨[], c :: (first ++ rest), rfl, hc, ?_⟩
            exact ih.mpr ⟨k, m, by omega, Or.inr hc, first, rest, rfl, hfirst, hrest⟩

theorem consistent_derivative {p : Pattern} (hp : p.Consistent) (place : Surroundings)
    (c : Char) : (p.derivative place c).Consistent := by
  induction p with
  | never | epsilon | assertion _ => trivial
  | set chars =>
      unfold derivative
      split <;> trivial
  | cat p q ihp ihq =>
      have hthrough := consistent_append (ihp hp.1) hp.2
      unfold derivative
      split
      · exact consistent_either hthrough (ihq hp.2)
      · exact hthrough
  | alt p q ihp ihq => exact consistent_either (ihp hp.1) (ihq hp.2)
  | repeated p least most ih =>
      unfold derivative
      split
      · trivial
      · -- one part less is needed and allowed, so the bounds stay in order
        refine consistent_append (ih hp.1) ?_
        split
        · trivial
        · refine ⟨hp.1, fun bound hbound => ?_⟩
          obtain ⟨high, hhigh, rfl⟩ := Option.map_eq_some_iff.mp hbound
          have := hp.2 high hhigh
          split <;> omega

/-! ## What follows the first character -/

section Cons

variable {p q : Pattern} {before after : Option Char} {c : Char} {text : List Char}

/-- The first character belongs to the first part, or that part is empty. -/
theorem matches_cat_cons_iff :
    (cat p q).Matches before (c :: text) after ↔
      (∃ first rest, text = first ++ rest ∧ p.Matches before (c :: first) (rest.head?.or after) ∧
        q.Matches (first.getLast?.or (some c)) rest after) ∨
      p.Matches before [] (some c) ∧ q.Matches before (c :: text) after := by
  constructor
  · rintro ⟨first, rest, htext, hfirst, hrest⟩
    cases first with
    | nil =>
        obtain rfl : c :: text = rest := htext
        exact Or.inr ⟨hfirst, hrest⟩
    | cons d first =>
        obtain ⟨rfl, rfl⟩ := List.cons.inj htext
        rw [getLast?_cons_or] at hrest
        exact Or.inl ⟨first, rest, rfl, hfirst, hrest⟩
  · rintro (⟨first, rest, rfl, hfirst, hrest⟩ | ⟨hfirst, hrest⟩)
    · refine ⟨c :: first, rest, rfl, hfirst, ?_⟩
      rw [getLast?_cons_or]
      exact hrest
    · exact ⟨[], c :: text, rfl, hfirst, hrest⟩

/-- The first character belongs to the first part that is not empty.  There may be any
number of parts in front of it if they may be empty, so then no lower bound is left. -/
theorem matches_repeated_cons_iff {least : Nat} {most : Option Nat}
    (hbounds : ∀ bound ∈ most, least ≤ bound) :
    (repeated p least most).Matches before (c :: text) after ↔
      ∃ first rest, text = first ++ rest ∧ p.Matches before (c :: first) (rest.head?.or after) ∧
        ∃ m, (p.Matches before [] (some c) ∨ least - 1 ≤ m) ∧ (∀ bound ∈ most, m + 1 ≤ bound) ∧
          Parts p.Matches m (first.getLast?.or (some c)) rest after := by
  simp only [Matches, parts_cons_iff]
  constructor
  · rintro ⟨n, hleast, hmost, k, m, rfl, hempty, first, rest, rfl, hfirst, hparts⟩
    refine ⟨first, rest, rfl, hfirst, m, ?_, fun bound hbound => ?_, hparts⟩
    · rcases hempty with rfl | hempty
      · exact Or.inr (by omega)
      · exact Or.inl hempty
    · have := hmost bound hbound
      omega
  · rintro ⟨first, rest, rfl, hfirst, m, hempty | hleast, hmost, hparts⟩
    · -- empty parts make up for those that are missing
      refine ⟨least - 1 - m + 1 + m, by omega, fun bound hbound => ?_, least - 1 - m, m, rfl,
        Or.inr hempty, first, rest, rfl, hfirst, hparts⟩
      have := hbounds bound hbound
      have := hmost bound hbound
      omega
    · refine ⟨0 + 1 + m, by omega, fun bound hbound => ?_, 0, m, rfl, Or.inl rfl,
        first, rest, rfl, hfirst, hparts⟩
      have := hmost bound hbound
      omega

/-- How often a repetition still has to match after a part that is not empty. -/
private theorem matches_remaining {least : Nat} {most : Option Nat} {empty : Bool}
    (hmost : most ≠ some 0) (hbounds : ∀ bound ∈ most, least ≤ bound) :
    (if most = some 1 then epsilon
      else repeated p (if empty then 0 else least - 1) (most.map (· - 1))).Matches
        before text after ↔
      ∃ m, (empty = true ∨ least - 1 ≤ m) ∧ (∀ bound ∈ most, m + 1 ≤ bound) ∧
        Parts p.Matches m before text after := by
  have hempty : ∀ m, (if empty then 0 else least - 1) ≤ m ↔ empty = true ∨ least - 1 ≤ m := by
    intro m
    cases empty <;> simp
  split
  · rename_i h
    subst h
    have hleast : least ≤ 1 := hbounds 1 rfl
    constructor
    · intro htext
      exact ⟨0, Or.inr (by omega), by simp, htext⟩
    · rintro ⟨m, -, hm, hparts⟩
      obtain rfl : m = 0 := by simpa using hm
      exact hparts
  · simp only [Matches, hempty]
    refine exists_congr fun m => and_congr_right fun _ => and_congr_left fun _ => ?_
    cases most with
    | none => simp
    | some bound =>
        have : bound ≠ 0 := fun h => hmost (h ▸ rfl)
        simp only [Option.map_some, Option.mem_some_iff, forall_eq']
        omega

/-- The derivative for a character matches exactly what a pattern matches after it. -/
def DerivedFor (p : Pattern) (before : Option Char) (c : Char) : Prop :=
  ∀ text after, (p.derivative ⟨before, some c⟩ c).Matches (some c) text after ↔
    p.Matches before (c :: text) after

theorem derivedFor_set {chars : CharSet} : (set chars).DerivedFor before c := by
  intro text after
  by_cases h : chars.contains c = true
  · simp only [derivative, if_pos h, Matches, List.cons.injEq]
    constructor
    · rintro rfl
      exact ⟨c, ⟨rfl, rfl⟩, h⟩
    · rintro ⟨d, ⟨-, htext⟩, -⟩
      exact htext
  · simp only [derivative, if_neg h, Matches, List.cons.injEq, false_iff, not_exists]
    rintro d ⟨⟨rfl, -⟩, hd⟩
    exact h hd

theorem derivedFor_alt (ihp : p.DerivedFor before c) (ihq : q.DerivedFor before c) :
    (alt p q).DerivedFor before c := by
  intro text after
  simp only [derivative, matches_either, Matches, ihp text after, ihq text after]

/-- Where the character is in the first part, that part goes on as its derivative says. -/
theorem DerivedFor.matches_append_iff (ih : p.DerivedFor before c) :
    (append (p.derivative ⟨before, some c⟩ c) q).Matches (some c) text after ↔
      ∃ first rest, text = first ++ rest ∧ p.Matches before (c :: first) (rest.head?.or after) ∧
        q.Matches (first.getLast?.or (some c)) rest after := by
  rw [matches_append]
  simp only [Matches, ih _ _]

theorem derivedFor_cat (hp : p.Consistent) (ihp : p.DerivedFor before c)
    (ihq : q.DerivedFor before c) : (cat p q).DerivedFor before c := by
  intro text after
  rw [matches_cat_cons_iff, ← ihp.matches_append_iff, derivative]
  by_cases hnull : p.nullable ⟨before, some c⟩ = true
  · have hempty : p.Matches before [] (some c) := (nullable_iff hp).mp hnull
    simp only [if_pos hnull, matches_either, ihq text after, hempty, true_and]
  · have hempty : ¬p.Matches before [] (some c) := fun h => hnull ((nullable_iff hp).mpr h)
    simp only [if_neg hnull, hempty, false_and, or_false]

theorem derivedFor_repeated {least : Nat} {most : Option Nat} (hp : p.Consistent)
    (hbounds : ∀ bound ∈ most, least ≤ bound) (ih : p.DerivedFor before c) :
    (repeated p least most).DerivedFor before c := by
  intro text after
  rw [derivative]
  split
  · -- without any part there is no character
    rename_i hzero
    simp only [hzero, Matches, false_iff, not_exists, not_and]
    rintro n - hn hparts
    obtain rfl : n = 0 := by simpa using hn
    exact List.cons_ne_nil _ _ hparts
  · rename_i hzero
    rw [ih.matches_append_iff, matches_repeated_cons_iff hbounds]
    simp only [matches_remaining hzero hbounds, nullable_iff hp]

end Cons

/-- **A derivative matches what has to follow the character.** -/
theorem matches_derivative {p : Pattern} (hp : p.Consistent) {before after : Option Char}
    {c : Char} {text : List Char} :
    (p.derivative ⟨before, some c⟩ c).Matches (some c) text after ↔
      p.Matches before (c :: text) after := by
  suffices p.DerivedFor before c from this text after
  induction p with
  | never | epsilon | assertion _ =>
      intro text after
      simp [derivative, Matches]
  | set chars => exact derivedFor_set
  | cat p q ihp ihq => exact derivedFor_cat hp.1 (ihp hp.1) (ihq hp.2)
  | alt p q ihp ihq => exact derivedFor_alt (ihp hp.1) (ihq hp.2)
  | repeated p least most ih => exact derivedFor_repeated hp.1 hp.2 (ih hp.1)

/-! ## Whole texts -/

theorem acceptsAfter_iff {p : Pattern} (hp : p.Consistent) {before : Option Char}
    {text : List Char} : p.acceptsAfter before text = true ↔ p.Matches before text none := by
  induction text generalizing p before with
  | nil => exact nullable_iff hp
  | cons c rest ih =>
      rw [acceptsAfter, ih (consistent_derivative hp _ c)]
      exact matches_derivative hp

/-- **A pattern accepts exactly the texts that it matches as a whole.** -/
theorem accepts_iff {p : Pattern} (hp : p.Consistent) {text : String} :
    p.accepts text = true ↔ p.Matches none text.toList none :=
  acceptsAfter_iff hp

end InfraSynth.Pattern

import InfraSynth.Aws.WebAcl.Statement

/-!
# Equality of statements

Trees of statements are equal if their roots agree in every part and their inner
statements are equal.  `Statement.same` decides this, so equality of statements
is decidable.
-/

namespace InfraSynth.Aws.WebAcl.Statement

mutual

/-- Whether two trees are equal. -/
def same : Statement → Statement → Bool
  | ofBody ⟨a₁, a₂, a₃, a₄, a₅, a₆, a₇, a₈, a₉, a₁₀, a₁₁, a₁₂, a₁₃, a₁₄⟩,
    ofBody ⟨b₁, b₂, b₃, b₄, b₅, b₆, b₇, b₈, b₉, b₁₀, b₁₁, b₁₂, b₁₃, b₁₄⟩ =>
    (a₁ == b₁ && a₂ == b₂ && a₃ == b₃ && a₉ == b₉ && a₁₀ == b₁₀ && a₁₁ == b₁₁ && a₁₂ == b₁₂ &&
      a₁₃ == b₁₃ && a₁₄ == b₁₄) && sameManaged a₄ b₄ && sameRate a₅ b₅ && sameList a₆ b₆ &&
      sameList a₇ b₇ && sameNegation a₈ b₈

/-- Whether two managed groups are equal. -/
def sameManaged : Option (ManagedGroup Statement) → Option (ManagedGroup Statement) → Bool
  | none, none => true
  | some ⟨n, v, r, o, s⟩, some ⟨n', v', r', o', s'⟩ =>
    (n == n' && v == v' && r == r' && o == o') && sameOption s s'
  | _, _ => false

/-- Whether two rate limits are equal. -/
def sameRate : Option (RateBased Statement) → Option (RateBased Statement) → Bool
  | none, none => true
  | some ⟨l, k, w, s⟩, some ⟨l', k', w', s'⟩ =>
    (l == l' && k == k' && w == w') && sameOption s s'
  | _, _ => false

/-- Whether two combinations are equal. -/
def sameList : Option (StatementList Statement) → Option (StatementList Statement) → Bool
  | none, none => true
  | some ⟨s⟩, some ⟨s'⟩ => sameItems s s'
  | _, _ => false

/-- Whether two negations are equal. -/
def sameNegation : Option (Negation Statement) → Option (Negation Statement) → Bool
  | none, none => true
  | some ⟨s⟩, some ⟨s'⟩ => same s s'
  | _, _ => false

/-- Whether two trees that may be absent are equal. -/
def sameOption : Option Statement → Option Statement → Bool
  | none, none => true
  | some s, some s' => same s s'
  | _, _ => false

/-- Whether two lists of trees are equal. -/
def sameItems : List Statement → List Statement → Bool
  | [], [] => true
  | s :: rest, s' :: rest' => same s s' && sameItems rest rest'
  | _, _ => false

end

mutual

theorem same_iff : ∀ (a b : Statement), same a b = true ↔ a = b
  | ofBody ⟨_, _, _, _, _, _, _, _, _, _, _, _, _, _⟩,
    ofBody ⟨_, _, _, _, _, _, _, _, _, _, _, _, _, _⟩ => by
    simp only [same, Bool.and_eq_true, beq_iff_eq, sameManaged_iff, sameRate_iff, sameList_iff,
      sameNegation_iff, ofBody.injEq, StatementBody.mk.injEq]
    constructor
    · rintro ⟨⟨⟨⟨⟨h, h₄⟩, h₅⟩, h₆⟩, h₇⟩, h₈⟩
      simp only [h, h₄, h₅, h₆, h₇, h₈, and_self]
    · intro h
      simp only [h, and_self]
  termination_by structural a => a

theorem sameManaged_iff : ∀ (a b : Option (ManagedGroup Statement)),
    sameManaged a b = true ↔ a = b
  | none, b => by cases b <;> simp [sameManaged]
  | some ⟨_, _, _, _, _⟩, none => by simp [sameManaged]
  | some ⟨_, _, _, _, _⟩, some ⟨_, _, _, _, _⟩ => by
    simp [sameManaged, sameOption_iff, and_assoc]
  termination_by structural a => a

theorem sameRate_iff : ∀ (a b : Option (RateBased Statement)), sameRate a b = true ↔ a = b
  | none, b => by cases b <;> simp [sameRate]
  | some ⟨_, _, _, _⟩, none => by simp [sameRate]
  | some ⟨_, _, _, _⟩, some ⟨_, _, _, _⟩ => by simp [sameRate, sameOption_iff, and_assoc]
  termination_by structural a => a

theorem sameList_iff : ∀ (a b : Option (StatementList Statement)), sameList a b = true ↔ a = b
  | none, b => by cases b <;> simp [sameList]
  | some ⟨_⟩, none => by simp [sameList]
  | some ⟨_⟩, some ⟨_⟩ => by simp [sameList, sameItems_iff]
  termination_by structural a => a

theorem sameNegation_iff : ∀ (a b : Option (Negation Statement)),
    sameNegation a b = true ↔ a = b
  | none, b => by cases b <;> simp [sameNegation]
  | some ⟨_⟩, none => by simp [sameNegation]
  | some ⟨_⟩, some ⟨_⟩ => by simp [sameNegation, same_iff]
  termination_by structural a => a

theorem sameOption_iff : ∀ (a b : Option Statement), sameOption a b = true ↔ a = b
  | none, b => by cases b <;> simp [sameOption]
  | some _, none => by simp [sameOption]
  | some _, some _ => by simp [sameOption, same_iff]
  termination_by structural a => a

theorem sameItems_iff : ∀ (a b : List Statement), sameItems a b = true ↔ a = b
  | [], b => by cases b <;> simp [sameItems]
  | _ :: _, [] => by simp [sameItems]
  | _ :: _, _ :: _ => by simp [sameItems, same_iff, sameItems_iff]
  termination_by structural a => a

end

instance : DecidableEq Statement := fun a b =>
  decidable_of_iff (same a b = true) (same_iff a b)

end InfraSynth.Aws.WebAcl.Statement

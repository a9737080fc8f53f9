import InfraSynth.Aws.Policy.Check
import InfraSynth.Proofs.Check
import InfraSynth.Proofs.Decode.Reordered

/-!
# Policies whose keys are in another order

A policy is kept as the value that was given, so the order of its keys is kept as
well.  But everything that is said about a document is read off values that are
looked up under their keys, and statements are a list: `Reordered.check_eq` says that
a document is checked alike whatever the order of its keys.
-/

namespace InfraSynth

open Outcome (Agree)

theorem Path.flatMapItems_eq_of_forall₂ {α β γ : Type} {R : α → β → Prop} {parent : String}
    {items : List α} {others : List β} {check : String → α → List γ} {second : String → β → List γ}
    (h : List.Forall₂ R items others)
    (hcheck : ∀ x y, R x y → ∀ path, check path x = second path y) :
    flatMapItems parent items check = flatMapItems parent others second := by
  have hmap : items.map (fun x path => check path x) = others.map fun y path => second path y :=
    map_eq_of_forall₂ h fun x y hxy => funext (hcheck x y hxy)
  have hitems := congrArg (fun checks => flatMapItems parent checks fun path f => f path) hmap
  rwa [flatMapItems_map, flatMapItems_map] at hitems

namespace Aws.PolicyDocument

/-- The second document is the first one with keys in another order. -/
abbrev Reordered (policy other : PolicyDocument) : Prop :=
  policy.value.Reordered other.value

theorem respects : codec.Respects Reordered := by
  intro value other hvalue
  cases value with
  | string text =>
      rw [hvalue.eq_of_depth rfl]
      simp only [codec]
      cases hparse : Json.parse text with
      | ok value => exact .ok (.refl (Json.distinctKeys_of_parse hparse))
      | error fault => exact .error _ _
  | object entries =>
      obtain ⟨_, others, rfl, -, -⟩ := hvalue.exists_object
      exact .ok hvalue
  | array items =>
      obtain ⟨others, rfl, -⟩ := hvalue.exists_array
      exact .error _ _
  | null | bool _ | number _ =>
      rw [hvalue.eq_of_depth rfl]
      exact .error _ _

/-! ## Statements -/

/-- The second statement is the first one with keys in another order. -/
def StatementReordered (statement other : Entries Json) : Prop :=
  (Json.object statement).Reordered (.object other)

theorem textOrList_eq {value other : Option Json} (h : Option.Rel Json.Reordered value other) :
    textOrList value = textOrList other := by
  cases h with
  | none => rfl
  | @some value other hvalue =>
      cases value with
      | array items =>
          obtain ⟨others, rfl, hitems⟩ := hvalue.exists_array
          exact filterMap_eq_of_forall₂ hitems fun _ _ => Json.Reordered.text?_eq
      | object entries =>
          obtain ⟨_, others, rfl, -, -⟩ := hvalue.exists_object
          rfl
      | null | bool _ | number _ | string _ => rw [hvalue.eq_of_depth rfl]

namespace StatementReordered

variable {statement other : Entries Json}

theorem get? (h : StatementReordered statement other) (key : String) :
    Option.Rel Json.Reordered (Entries.get? statement key) (Entries.get? other key) :=
  Json.Reordered.get? h key

theorem contains_eq (h : StatementReordered statement other) (key : String) :
    Entries.contains statement key = Entries.contains other key :=
  isSome_eq_of_rel (h.get? key)

theorem text?_eq (h : StatementReordered statement other) (key : String) :
    (Entries.get? statement key).bind Json.text? = (Entries.get? other key).bind Json.text? :=
  Json.Reordered.bind_text?_eq (h.get? key)

theorem actionsOf_eq (h : StatementReordered statement other) :
    actionsOf statement = actionsOf other :=
  textOrList_eq (h.get? "Action")

theorem checkOneKey_eq (h : StatementReordered statement other) (path key negated : String) :
    checkOneKey path statement key negated = checkOneKey path other key negated := by
  rw [checkOneKey, checkOneKey, h.contains_eq, h.contains_eq]

theorem checkActions_eq (h : StatementReordered statement other) (path key : String) :
    checkActions path statement key = checkActions path other key := by
  rw [checkActions, checkActions, textOrList_eq (h.get? key)]

theorem checkSubject_eq (h : StatementReordered statement other) (path : String) (kind : Kind) :
    checkSubject path statement kind = checkSubject path other kind := by
  cases kind with
  | trust => exact h.checkOneKey_eq path "Principal" "NotPrincipal"
  | identity => rw [checkSubject, checkSubject, h.checkOneKey_eq, h.contains_eq]

/-- A statement is checked alike whatever the order of its keys. -/
theorem checkStatement_eq (h : StatementReordered statement other) (kind : Kind) (path : String) :
    checkStatement kind path statement = checkStatement kind path other := by
  rw [checkStatement, checkStatement, effectOf, effectOf, h.text?_eq, h.checkOneKey_eq,
    h.checkActions_eq, h.checkActions_eq, h.checkSubject_eq]

end StatementReordered

/-! ## Documents -/

namespace Reordered

variable {policy other : PolicyDocument}

theorem get? (h : Reordered policy other) (key : String) :
    Option.Rel Json.Reordered (policy.value.get? key) (other.value.get? key) := by
  have hentries := h.entries?
  unfold Json.get?
  generalize policy.value.entries? = entries at hentries ⊢
  generalize other.value.entries? = others at hentries ⊢
  cases hentries with
  | none => exact .none
  | some hobject => exact Json.Reordered.get? hobject key

/-- There are as many statements, one like the other. -/
theorem statements (h : Reordered policy other) :
    List.Forall₂ StatementReordered policy.statements other.statements := by
  have hget := h.get? "Statement"
  unfold PolicyDocument.statements
  generalize policy.value.get? "Statement" = value at hget ⊢
  generalize other.value.get? "Statement" = second at hget ⊢
  cases hget with
  | none => exact .nil
  | @some value _ hvalue =>
      cases value with
      | array items =>
          obtain ⟨others, rfl, hitems⟩ := hvalue.exists_array
          exact List.rel_filterMap (fun _ _ hitem => Json.Reordered.entries? hitem) hitems
      | object statement =>
          obtain ⟨_, others, rfl, -, -⟩ := hvalue.exists_object
          exact .cons hvalue .nil
      | null | bool _ | number _ | string _ =>
          rw [hvalue.eq_of_depth rfl]
          exact .nil

theorem isNone_entries?_eq (h : Reordered policy other) :
    policy.value.entries?.isNone = other.value.entries?.isNone := by
  rw [← Option.not_isSome, ← Option.not_isSome, isSome_eq_of_rel h.entries?]

theorem version?_eq (h : Reordered policy other) : policy.version? = other.version? :=
  Json.Reordered.bind_text?_eq (h.get? "Version")

theorem statementIds_eq (h : Reordered policy other) : policy.statementIds = other.statementIds :=
  filterMap_eq_of_forall₂ h.statements fun _ _ hstatement => hstatement.text?_eq "Sid"

/-- **A document is checked alike whatever the order of its keys**: the same
violations are listed, in the same order. -/
theorem check_eq (h : Reordered policy other) (field : String) (kind : Kind) :
    policy.check field kind = other.check field kind := by
  have hlength : policy.statements.length = other.statements.length := h.statements.length_eq
  have hstatements : ∀ path, Path.flatMapItems path policy.statements (checkStatement kind) =
      Path.flatMapItems path other.statements (checkStatement kind) := fun path =>
    Path.flatMapItems_eq_of_forall₂ h.statements fun _ _ hstatement =>
      hstatement.checkStatement_eq kind
  simp only [check, h.isNone_entries?_eq, h.version?_eq, hlength, h.statementIds_eq, hstatements]

/-- Whether wildcards are allowed does not depend on the order of keys. -/
theorem allowsWildcard_eq (h : Reordered policy other) :
    policy.allowsWildcard = other.allowsWildcard := by
  unfold allowsWildcard
  rw [List.any_filter, List.any_filter]
  refine any_eq_of_forall₂ h.statements fun _ _ hstatement => ?_
  rw [effectOf, effectOf, hstatement.text?_eq, hstatement.actionsOf_eq]

end Reordered

end Aws.PolicyDocument

end InfraSynth

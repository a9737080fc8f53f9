import InfraSynth.Aws.WebAcl.Basic
import InfraSynth.Proofs.Aws.Statement.WellFormed
import InfraSynth.Proofs.Resource
import Mathlib.Data.Fintype.Card

/-!
# Accepted web access lists

What is known of a list that has passed its check: of its rules, and of every
statement in the trees of the rules.  A statement that stands inside another one
is well formed there, however deep it stands, and so it uses no group of rules
and limits no rate.
-/

namespace InfraSynth.Aws.WebAcl

/-! ## Statements inside a tree -/

namespace Statement

/-- One statement is an inner statement of another one. -/
def IsChild (tree statement : Statement) : Prop :=
  statement ∈ tree.body.children

/-- A statement stands in a tree, at any depth below its root. -/
def IsInside (statement tree : Statement) : Prop :=
  Relation.TransGen IsChild tree statement

end Statement

variable {nesting : Nesting} {statement : Statement}

/-- A tree that passes its check somewhere is well formed there. -/
theorem WellFormed.of_check {path : String} (h : statement.check path nesting = []) :
    WellFormed nesting statement := by
  -- the induction needs the inner statements at every path
  have hiff : ∀ path nesting, statement.check path nesting = [] ↔ WellFormed nesting statement := by
    clear h
    induction statement using Statement.induction with
    | step body ih =>
        intro path nesting
        rw [Statement.check_ofBody,
          StatementBody.check_map_eq_nil_iff fun s hs path => ih s hs path .nested]
        constructor
        · rintro ⟨kind, rfl, hlimits, hchildren⟩
          exact .ofKind nesting kind hlimits hchildren
        · rintro ⟨_, kind, hlimits, hchildren⟩
          exact ⟨kind, rfl, hlimits, hchildren⟩
  exact (hiff path nesting).mp h

/-- A tree that is well formed somewhere passes its check there. -/
theorem WellFormed.check_eq_nil (h : WellFormed nesting statement) (path : String) :
    statement.check path nesting = [] := by
  induction h generalizing path with
  | ofKind _ kind hlimits _ ih =>
      have hchildren : ∀ s ∈ kind.children, ∀ path, s.check path .nested = [] ↔ True :=
        fun s hs path => iff_true_intro (ih s hs path)
      rw [Statement.check_ofBody]
      exact (Kind.check_map_eq_nil_iff hchildren).mpr ⟨hlimits, fun _ _ => trivial⟩

theorem WellFormed.of_isChild (h : WellFormed nesting statement) {inner : Statement}
    (hinner : statement.IsChild inner) : WellFormed .nested inner := by
  cases h with
  | ofKind _ kind _ hchildren =>
      rw [Statement.IsChild, Statement.body, Kind.children_body] at hinner
      exact hchildren inner hinner

theorem WellFormed.of_isInside (h : WellFormed nesting statement) {inner : Statement}
    (hinner : inner.IsInside statement) : WellFormed .nested inner := by
  induction hinner with
  | single hchild => exact h.of_isChild hchild
  | tail _ hchild ih => exact ih.of_isChild hchild

/-- A statement that stands inside another one has none of the kinds that may
only stand at the top. -/
theorem WellFormed.topOnly_eq_none (h : WellFormed .nested statement) :
    statement.body.managedGroup = none ∧ statement.body.ruleGroup = none ∧
      statement.body.rateBased = none := by
  cases h with
  | ofKind _ kind hlimits _ =>
      cases kind with
      | managedGroup | rateBased | ruleGroup => exact absurd hlimits.1 (by decide)
      | byteMatch | geoMatch | ipSet | conjunction | disjunction | negation | sizeConstraint
      | sqlInjection | crossSiteScripting | patternSet | label => exact ⟨rfl, rfl, rfl⟩

/-! ## Rules -/

/-- A rule that uses a group of rules overrides the actions of the group, every
other rule has an action of its own, and the statement is well formed. -/
structure Rule.WellFormed (rule : Rule) : Prop where
  action : rule.action.isSome = !rule.usesRuleGroup
  overrideAction : rule.overrideAction.isSome = rule.usesRuleGroup
  statement : WebAcl.WellFormed .top rule.statement

/-- Whether an action is given or forbidden is a matter of three flags. -/
private theorem action_choice {action overrideAction usesGroup : Bool}
    (hone : [action, overrideAction].count true = 1) (hown : ¬(action = true ∧ usesGroup = true))
    (hgroup : ¬(overrideAction = true ∧ (!usesGroup) = true)) :
    action = !usesGroup ∧ overrideAction = usesGroup := by
  revert hone hown hgroup
  revert action overrideAction usesGroup
  decide

theorem Rule.wellFormed_of_check {rule : Rule} {path : String} (h : rule.check path = []) :
    rule.WellFormed := by
  simp only [check, checkAction, List.append_eq_nil_iff, Check.exactlyOneOf_eq_nil_iff,
    Check.forbids_eq_nil_iff] at h
  obtain ⟨⟨⟨⟨-, ⟨⟨⟨hone, hown⟩, hgroup⟩, -⟩, -⟩, hstatement⟩, -⟩, -⟩ := h
  obtain ⟨haction, hoverride⟩ := action_choice hone hown hgroup
  exact ⟨haction, hoverride, .of_check hstatement⟩

/-! ## Lists -/

/-- What an accepted list is known to keep to. -/
structure Accepted (acl : WebAcl) : Prop where
  names : (acl.rules.map (·.name)).Nodup
  priorities : (acl.rules.map (·.priority)).Nodup
  rules : ∀ rule ∈ acl.rules, rule.WellFormed
  capacity : acl.capacity ≤ maxCapacity

theorem accepted_of_validate {acl : WebAcl} (h : Resource.validate acl = .ok ()) :
    acl.Accepted := by
  have hviolations : acl.violations = [] := Resource.validate_eq_ok_iff.mp h
  simp only [violations, List.append_eq_nil_iff, Check.unique_eq_nil_iff, checkCapacity,
    Check.that_eq_nil_iff, decide_eq_true_eq, Path.flatMapItems_eq_nil_iff] at hviolations
  obtain ⟨⟨⟨⟨⟨⟨-, hnames⟩, hpriorities⟩, hrules⟩, hcapacity⟩, -⟩, -⟩ := hviolations
  refine ⟨hnames, .of_map toString ?_, fun rule hrule => ?_, hcapacity⟩
  · rwa [List.map_map]
  · obtain ⟨i, hi, rfl⟩ := List.mem_iff_getElem.mp hrule
    exact Rule.wellFormed_of_check (hrules i hi)

/-- There are not more rules than priorities. -/
theorem Accepted.length_rules_le {acl : WebAcl} (h : acl.Accepted) :
    acl.rules.length ≤ UInt32.size := by
  have hinjective : Function.Injective UInt32.toFin := fun _ _ => UInt32.toFin_inj.mp
  have hnodup : ((acl.rules.map (·.priority)).map UInt32.toFin).Nodup :=
    (List.nodup_map_iff hinjective).mpr h.priorities
  simpa using hnodup.length_le_card

end InfraSynth.Aws.WebAcl

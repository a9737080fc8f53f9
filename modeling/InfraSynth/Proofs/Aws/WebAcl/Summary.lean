import InfraSynth.Proofs.Aws.WebAcl.Accepted
import InfraSynth.Proofs.Number.Whole

/-!
# Summaries of web access lists

What follows from a list is computed from whole trees: the groups that its rules
use, whether a rate is limited, and the price.  In an accepted list only the
roots of the trees matter, because the kinds that the summaries look for may not
stand inside another statement.

## Strategy

`managedGroups_ofBody` and `hasRateLimit_ofBody` say what a summary takes from a
root and from the statements inside it.  A statement inside another one gives
nothing, by induction on its tree, so a root gives only what it is itself.
-/

namespace InfraSynth.Aws.WebAcl

/-! ## Trees -/

namespace Statement

variable {nesting : Nesting} {statement : Statement}

/-- The managed group that the root of a tree uses, as vendor and name. -/
def managedRoot (statement : Statement) : Option String :=
  statement.body.managedGroup.map fun group => s!"{group.vendorName}/{group.name}"

theorem managedGroups_ofBody (body : StatementBody Statement) :
    (ofBody body).managedGroups =
      (ofBody body).managedRoot.toList ++ body.children.flatMap managedGroups := by
  rw [managedGroups, fold_ofBody, StatementBody.children_map, ← List.flatMap_def]
  congr 1
  cases h : body.managedGroup <;> simp [managedRoot, Statement.body, StatementBody.map,
    ManagedGroup.map, h]

theorem hasRateLimit_ofBody (body : StatementBody Statement) :
    (ofBody body).hasRateLimit = (body.rateBased.isSome || body.children.any hasRateLimit) := by
  rw [hasRateLimit, fold_ofBody, StatementBody.children_map, List.any_map]
  congr 1
  exact Option.isSome_map

/-- Where the inner statements add nothing, the summaries of a tree are those of
its root. -/
private theorem summaries_ofBody {body : StatementBody Statement}
    (hchildren : ∀ inner ∈ body.children, inner.managedGroups = [] ∧ inner.hasRateLimit = false) :
    (ofBody body).managedGroups = (ofBody body).managedRoot.toList ∧
      (ofBody body).hasRateLimit = body.rateBased.isSome := by
  have hgroups : body.children.flatMap managedGroups = [] :=
    List.flatMap_eq_nil_iff.mpr fun inner hinner => (hchildren inner hinner).1
  have hrate : body.children.any hasRateLimit = false := by
    rw [List.any_eq_false]
    intro inner hinner
    rw [(hchildren inner hinner).2]
    exact Bool.false_ne_true
  rw [managedGroups_ofBody, hasRateLimit_ofBody, hgroups, hrate, List.append_nil, Bool.or_false]
  exact ⟨rfl, rfl⟩

/-- A statement inside another one adds nothing to the summaries. -/
theorem summaries_of_nested (h : WellFormed .nested statement) :
    statement.managedGroups = [] ∧ statement.hasRateLimit = false := by
  induction statement using Statement.induction with
  | step body ih =>
      obtain ⟨hmanaged, -, hrate⟩ := h.topOnly_eq_none
      obtain ⟨hgroups, hlimit⟩ :=
        summaries_ofBody fun inner hinner => ih inner hinner (h.of_isChild hinner)
      rw [hgroups, hlimit, managedRoot, hmanaged, show body.rateBased = none from hrate]
      exact ⟨rfl, rfl⟩

/-- The summaries of a tree are those of its root. -/
theorem summaries_of_wellFormed (h : WellFormed nesting statement) :
    statement.managedGroups = statement.managedRoot.toList ∧
      statement.hasRateLimit = statement.body.rateBased.isSome := by
  obtain ⟨body⟩ := statement
  exact summaries_ofBody fun inner hinner => summaries_of_nested (h.of_isChild hinner)

end Statement

/-! ## Lists -/

variable {acl : WebAcl}

/-- The rules of a list whose statement is a managed group at its root. -/
def managedRules (acl : WebAcl) : List Rule :=
  acl.rules.filter fun rule => rule.statement.body.managedGroup.isSome

theorem Accepted.managedGroups_eq (h : acl.Accepted) :
    acl.managedGroups = acl.rules.filterMap fun rule => rule.statement.managedRoot := by
  rw [List.filterMap_eq_flatMap_toList, managedGroups]
  refine List.flatMap_congr fun rule hrule => ?_
  exact (Statement.summaries_of_wellFormed (h.rules rule hrule).statement).1

theorem Accepted.length_managedGroups (h : acl.Accepted) :
    acl.managedGroups.length = acl.managedRules.length := by
  have hsame : ∀ rule : Rule,
      rule.statement.managedRoot.isSome = rule.statement.body.managedGroup.isSome :=
    fun _ => Option.isSome_map
  rw [h.managedGroups_eq, List.length_filterMap_eq_countP, managedRules,
    List.countP_eq_length_filter]
  simp only [hsame]

theorem Accepted.hasRateLimiting_iff (h : acl.Accepted) :
    acl.computed.hasRateLimiting = true ↔
      ∃ rule ∈ acl.rules, rule.statement.body.rateBased.isSome = true := by
  rw [computed, List.any_eq_true]
  refine exists_congr fun rule => and_congr_right fun hrule => ?_
  rw [(Statement.summaries_of_wellFormed (h.rules rule hrule).statement).2]

/-- The price of an accepted list is not rounded. -/
theorem Accepted.cost_eq (h : acl.Accepted) :
    acl.cost = .whole (5 + acl.rules.length + acl.managedRules.length) := by
  have hrules : acl.rules.length ≤ Nat.pow 2 32 := h.length_rules_le
  have hmanaged : acl.managedRules.length ≤ acl.rules.length := List.length_filter_le ..
  have hbound : 5 + Nat.pow 2 32 + Nat.pow 2 32 < Nat.pow 2 53 := by decide
  calc acl.cost
      = ((Binary64.whole 5).add (.whole acl.rules.length)).add
          (.whole acl.managedRules.length) := by
        rw [cost, h.length_managedGroups, Binary64.ofNat_eq_whole (by omega),
          Binary64.ofNat_eq_whole (by omega), Binary64.ofNat_eq_whole (by omega)]
    _ = (Binary64.whole (5 + acl.rules.length)).add (.whole acl.managedRules.length) := by
        rw [Binary64.add_whole (by omega)]
    _ = .whole (5 + acl.rules.length + acl.managedRules.length) :=
        Binary64.add_whole (by omega)

/-- The summaries of a list and the actions of its rules follow from the roots of
the rules. -/
structure FollowsRoots (acl : WebAcl) : Prop where
  /-- The kinds that a summary looks for stand at the roots only. -/
  inside : ∀ rule ∈ acl.rules, ∀ statement : Statement, statement.IsInside rule.statement →
    statement.body.managedGroup = none ∧ statement.body.ruleGroup = none ∧
      statement.body.rateBased = none
  managedGroups : acl.computed.managedGroups =
    acl.rules.filterMap fun rule => rule.statement.managedRoot
  hasRateLimiting : acl.computed.hasRateLimiting = true ↔
    ∃ rule ∈ acl.rules, rule.statement.body.rateBased.isSome = true
  overrideAction : ∀ rule ∈ acl.rules, rule.overrideAction.isSome = true ↔
    rule.statement.body.managedGroup.isSome = true ∨ rule.statement.body.ruleGroup.isSome = true
  action : ∀ rule ∈ acl.rules, rule.action.isSome = true ↔
    rule.statement.body.managedGroup = none ∧ rule.statement.body.ruleGroup = none
  names : (acl.rules.map (·.name)).Nodup
  priorities : (acl.rules.map (·.priority)).Nodup
  monthlyCost : acl.computed.monthlyCost =
    .whole (5 + acl.rules.length + acl.managedRules.length)

/-- **What is computed from an accepted list follows from the roots of its
rules.** -/
theorem followsRoots_of_validate (h : Resource.validate acl = .ok ()) : acl.FollowsRoots := by
  have haccepted : acl.Accepted := accepted_of_validate h
  refine ⟨fun rule hrule statement hinside => ?_, haccepted.managedGroups_eq,
    haccepted.hasRateLimiting_iff, fun rule hrule => ?_, fun rule hrule => ?_, haccepted.names,
    haccepted.priorities, haccepted.cost_eq⟩
  · exact ((haccepted.rules rule hrule).statement.of_isInside hinside).topOnly_eq_none
  · rw [(haccepted.rules rule hrule).overrideAction, Rule.usesRuleGroup,
      StatementBody.isRuleGroup, Bool.or_eq_true]
  · rw [(haccepted.rules rule hrule).action, Rule.usesRuleGroup, StatementBody.isRuleGroup,
      Bool.not_or, Bool.and_eq_true, Bool.not_eq_true', Bool.not_eq_true',
      Option.isSome_eq_false_iff, Option.isSome_eq_false_iff, Option.isNone_iff_eq_none,
      Option.isNone_iff_eq_none]

/-- A list with a managed group and a rate limit. -/
def limitedAcl : WebAcl where
  name := "limited"
  description := none
  scope := .regional
  defaultAction := ⟨some {}, none⟩
  rules := [
    { name := "common"
      priority := 0
      action := none
      overrideAction := some ⟨some {}, none⟩
      statement := .ofBody { StatementBody.blank with
        managedGroup := some ⟨"AWSManagedRulesCommonRuleSet", "AWS", none, [], none⟩ }
      visibility := .ofMetric "common"
      labels := [] },
    { name := "rate"
      priority := 1
      action := some ⟨none, some ⟨none⟩, none, none, none⟩
      overrideAction := none
      statement := .ofBody { StatementBody.blank with
        rateBased := some ⟨2000, "IP", none, some (.ofBody { StatementBody.blank with
          geoMatch := some ⟨["DE"]⟩ })⟩ }
      visibility := .ofMetric "rate"
      labels := [] }]
  visibility := .ofMetric "limited"
  tags := .empty

theorem followsRoots_limitedAcl :
    Resource.validate limitedAcl = .ok () ∧ limitedAcl.FollowsRoots := by
  have h : Resource.validate limitedAcl = .ok () :=
    Resource.validate_eq_ok_iff.mpr (by decide +kernel)
  exact ⟨h, followsRoots_of_validate h⟩

end InfraSynth.Aws.WebAcl

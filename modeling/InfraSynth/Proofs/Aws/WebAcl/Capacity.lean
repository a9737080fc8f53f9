import InfraSynth.Proofs.Aws.WebAcl.Accepted
import Mathlib.Algebra.BigOperators.Ring.List
import Mathlib.Algebra.Order.BigOperators.Group.List
import Mathlib.Algebra.Order.Ring.Nat

/-!
# The capacity of web access lists

The capacity of a list is counted in 32 bits, over all statements of all rules,
before it is compared with the limit.  `WebAcl.units` is the same sum without a
bound.  The two agree as long as the sum stays below `2 ^ 32`, and only then: a
list with some millions of rules has a sum beyond it and a capacity within the
limit.

## Strategy

Where exactly one kind is set, the kind that decides the capacity of a statement
is the one that is set, so the capacity is the number of units in 32 bits
(`Kind.ownCapacity_body`).  `UInt32.ofNat` is additive, and induction on trees
and then on rules carries this to a whole list.  The lists of one managed group
(`commonAcl`) pass their check whenever 32 bits of their units are within the
limit, so one of them goes beyond it.
-/

namespace InfraSynth.Aws.WebAcl

variable {σ : Type}

/-! ## Units -/

/-- The units that transformations take: ten for each that changes something. -/
def Transformation.units (transformations : List Transformation) : Nat :=
  10 * (transformations.filter (·.type ≠ "NONE")).length

/-- The units that a statement takes apart from its inner statements, summed over
the kinds that are set. -/
def StatementBody.ownUnits (body : StatementBody σ) : Nat :=
  (body.byteMatch.elim 0 fun s => 1 + Transformation.units s.transformations) +
  (body.geoMatch.elim 0 fun _ => 1) +
  (body.ipSet.elim 0 fun _ => 1) +
  (body.managedGroup.elim 0 fun s => (StatementBody.managedCapacity s.name).toNat) +
  (body.rateBased.elim 0 fun _ => 2) +
  (body.sizeConstraint.elim 0 fun s => 1 + Transformation.units s.transformations) +
  (body.sqlInjection.elim 0 fun s => 20 + Transformation.units s.transformations) +
  (body.crossSiteScripting.elim 0 fun s => 40 + Transformation.units s.transformations) +
  (body.patternSet.elim 0 fun s => 25 + Transformation.units s.transformations) +
  (body.label.elim 0 fun _ => 1) +
  (body.ruleGroup.elim 0 fun _ => 100)

/-- The units that a tree takes, summed over the statement and all statements
inside it. -/
def Statement.units (statement : Statement) : Nat :=
  statement.fold fun body => body.ownUnits + body.children.sum

/-- How many statements there are in a tree. -/
def Statement.size (statement : Statement) : Nat :=
  statement.fold fun body => 1 + body.children.sum

/-- The units that all rules of a list take. -/
def units (acl : WebAcl) : Nat :=
  (acl.rules.map fun rule => rule.statement.units).sum

/-- How many statements there are in the rules of a list. -/
def size (acl : WebAcl) : Nat :=
  (acl.rules.map fun rule => rule.statement.size).sum

/-! ## Statements -/

theorem Transformation.cost_eq (transformations : List Transformation) :
    cost transformations = .ofNat (units transformations) := by
  rw [cost, units, UInt32.ofNat_mul]
  rfl

/-- Where one kind is set, it is the one that decides. -/
theorem Kind.ownCapacity_body (kind : Kind σ) :
    kind.body.ownCapacity = .ofNat kind.body.ownUnits := by
  cases kind <;>
    simp [body, StatementBody.blank, StatementBody.ownCapacity, StatementBody.ownUnits,
      Transformation.cost_eq, UInt32.ofNat_add]

theorem Transformation.ListWellFormed.units_le {transformations : List Transformation}
    (h : ListWellFormed transformations) : units transformations ≤ 100 := by
  have hfilter : (transformations.filter (·.type ≠ "NONE")).length ≤ transformations.length :=
    List.length_filter_le ..
  have hsize : transformations.length ≤ 10 := h.size.2
  unfold units
  omega

theorem StatementBody.managedCapacity_le (name : String) : managedCapacity name ≤ 700 := by
  unfold managedCapacity
  cases hlookup : managedCapacities.lookup name with
  | none => decide
  | some capacity =>
      have hall : ∀ entry ∈ managedCapacities, entry.2 ≤ 700 := by decide
      obtain ⟨before, after, happend, -⟩ := List.lookup_eq_some_iff.mp hlookup
      have hmem : (name, capacity) ∈ managedCapacities := by
        rw [happend]
        exact List.mem_append_right before List.mem_cons_self
      exact hall _ hmem

/-- No statement takes more than 700 units itself. -/
theorem Kind.ownUnits_le {nesting : Nesting} {kind : Kind σ} (h : kind.WithinLimits nesting) :
    kind.body.ownUnits ≤ 700 := by
  cases kind with
  | byteMatch | sizeConstraint | sqlInjection | crossSiteScripting | patternSet =>
      have hlist := h.transformations.units_le
      simp only [body, StatementBody.blank, StatementBody.ownUnits, Option.elim_none,
        Option.elim_some]
      omega
  | managedGroup s =>
      have hname := UInt32.le_iff_toNat_le.mp (StatementBody.managedCapacity_le s.name)
      simpa [body, StatementBody.blank, StatementBody.ownUnits] using hname
  | geoMatch | ipSet | rateBased | conjunction | disjunction | negation | label | ruleGroup =>
      simp [body, StatementBody.blank, StatementBody.ownUnits]

variable {τ : Type} (g : σ → τ)

theorem StatementBody.ownCapacity_map (body : StatementBody σ) :
    (body.map g).ownCapacity = body.ownCapacity := by
  obtain ⟨_, _, _, managedGroup, rateBased, _, _, _, _, _, _, _, _, _⟩ := body
  cases managedGroup <;> cases rateBased <;> rfl

theorem StatementBody.ownUnits_map (body : StatementBody σ) :
    (body.map g).ownUnits = body.ownUnits := by
  obtain ⟨_, _, _, managedGroup, rateBased, _, _, _, _, _, _, _, _, _⟩ := body
  cases managedGroup <;> cases rateBased <;> rfl

/-- A list of sums in 32 bits. -/
theorem foldr_ofNat (numbers : List Nat) :
    (numbers.map UInt32.ofNat).foldr (· + ·) 0 = .ofNat numbers.sum := by
  induction numbers with
  | nil => rfl
  | cons n rest ih => rw [List.map_cons, List.foldr_cons, ih, List.sum_cons, UInt32.ofNat_add]

namespace Statement

variable {nesting : Nesting} {statement : Statement}

theorem capacity_ofBody (body : StatementBody Statement) :
    (ofBody body).capacity =
      body.ownCapacity + (body.children.map capacity).foldr (· + ·) 0 := by
  rw [capacity, fold_ofBody, StatementBody.children_map, StatementBody.ownCapacity_map]
  rfl

theorem units_ofBody (body : StatementBody Statement) :
    (ofBody body).units = body.ownUnits + (body.children.map units).sum := by
  rw [units, fold_ofBody, StatementBody.children_map, StatementBody.ownUnits_map]
  rfl

theorem size_ofBody (body : StatementBody Statement) :
    (ofBody body).size = 1 + (body.children.map size).sum := by
  rw [size, fold_ofBody, StatementBody.children_map]
  rfl

/-- The capacity of a tree is the number of its units in 32 bits. -/
theorem capacity_of_wellFormed (h : WellFormed nesting statement) :
    statement.capacity = .ofNat statement.units := by
  induction h with
  | ofKind _ kind _ _ ih =>
      have hchildren : kind.children.map capacity = (kind.children.map units).map UInt32.ofNat := by
        rw [List.map_map]
        exact List.map_congr_left ih
      calc (ofBody kind.body).capacity
          = kind.body.ownCapacity + (kind.children.map capacity).foldr (· + ·) 0 := by
            rw [capacity_ofBody, Kind.children_body]
        _ = .ofNat kind.body.ownUnits + .ofNat (kind.children.map units).sum := by
            rw [kind.ownCapacity_body, hchildren, foldr_ofNat]
        _ = .ofNat (ofBody kind.body).units := by
            rw [units_ofBody, Kind.children_body, UInt32.ofNat_add]

theorem units_le_of_wellFormed (h : WellFormed nesting statement) :
    statement.units ≤ 700 * statement.size := by
  induction h with
  | ofKind _ kind hlimits _ ih =>
      have hown : kind.body.ownUnits ≤ 700 := Kind.ownUnits_le hlimits
      have hchildren : (kind.children.map units).sum ≤ 700 * (kind.children.map size).sum := by
        rw [← List.sum_map_mul_left kind.children size 700]
        exact List.sum_le_sum ih
      calc (ofBody kind.body).units
          = kind.body.ownUnits + (kind.children.map units).sum := by
            rw [units_ofBody, Kind.children_body]
        _ ≤ 700 + 700 * (kind.children.map size).sum := Nat.add_le_add hown hchildren
        _ = 700 * (ofBody kind.body).size := by
            rw [size_ofBody, Kind.children_body, Nat.mul_add, Nat.mul_one]

end Statement

/-! ## Lists -/

variable {acl : WebAcl}

theorem capacity_eq (h : ∀ rule ∈ acl.rules, WellFormed .top rule.statement) :
    acl.capacity = .ofNat acl.units := by
  have hrules : acl.rules.map (fun rule => rule.statement.capacity) =
      (acl.rules.map fun rule => rule.statement.units).map UInt32.ofNat := by
    rw [List.map_map]
    exact List.map_congr_left fun rule hrule => Statement.capacity_of_wellFormed (h rule hrule)
  rw [capacity, hrules, foldr_ofNat, units]

theorem units_le (h : ∀ rule ∈ acl.rules, WellFormed .top rule.statement) :
    acl.units ≤ 700 * acl.size := by
  rw [units, size, ← List.sum_map_mul_left acl.rules (fun rule => rule.statement.size) 700]
  exact List.sum_le_sum fun rule hrule => Statement.units_le_of_wellFormed (h rule hrule)

/-- **The capacity of an accepted list is its number of units in 32 bits.**  It is
the number of units, and that number is within the limit, exactly if the number
is one of 32 bits; and it is one where there are not more than 6135667
statements. -/
theorem capacity_of_validate (h : Resource.validate acl = .ok ()) :
    acl.capacity.toNat = acl.units % UInt32.size ∧
      (acl.units ≤ maxCapacity.toNat ∧ acl.capacity.toNat = acl.units ↔
        acl.units < UInt32.size) ∧
      (acl.size ≤ 6135667 → acl.units < UInt32.size) := by
  have haccepted : acl.Accepted := accepted_of_validate h
  have hrules : ∀ rule ∈ acl.rules, WellFormed .top rule.statement :=
    fun rule hrule => (haccepted.rules rule hrule).statement
  have hcapacity : acl.capacity.toNat = acl.units % UInt32.size := by
    rw [capacity_eq hrules]
    exact UInt32.toNat_ofNat'
  have hlimit : acl.capacity.toNat ≤ maxCapacity.toNat :=
    UInt32.le_iff_toNat_le.mp haccepted.capacity
  have hmax : maxCapacity.toNat < UInt32.size := maxCapacity.toNat_lt_size
  refine ⟨hcapacity, ⟨fun ⟨hle, _⟩ => by omega, fun hlt => ?_⟩, fun hsize => ?_⟩
  · rw [Nat.mod_eq_of_lt hlt] at hcapacity
    exact ⟨hcapacity ▸ hlimit, hcapacity⟩
  · have hunits : acl.units ≤ 700 * acl.size := units_le hrules
    have hstatements : 700 * 6135667 < UInt32.size := by decide
    omega

/-! ## Lists of one managed group -/

/-- The managed group that takes most units. -/
def commonGroup : Kind Statement :=
  .managedGroup ⟨"AWSManagedRulesCommonRuleSet", "AWS", none, [], none⟩

/-- A rule that uses the group and is named by its priority. -/
def commonRule (priority : UInt32) : Rule where
  name := toString priority
  priority
  action := none
  overrideAction := some ⟨some {}, none⟩
  statement := .ofBody commonGroup.body
  visibility := .ofMetric "common"
  labels := []

/-- A list that uses the group once at each of some priorities. -/
def commonAcl (priorities : List UInt32) : WebAcl where
  name := "common"
  description := none
  scope := .regional
  defaultAction := ⟨some {}, none⟩
  rules := priorities.map commonRule
  visibility := .ofMetric "common"
  tags := .empty

theorem wellFormed_commonGroup : WellFormed .top (.ofBody commonGroup.body) := by
  refine .ofKind .top commonGroup ⟨rfl, ⟨?_, ?_, ?_⟩⟩ fun s hs => ?_
  · exact Check.notBlank_eq_nil_iff.mp (by decide +kernel : Check.notBlank "name" _ = [])
  · exact Check.notBlank_eq_nil_iff.mp (by decide +kernel : Check.notBlank "vendor_name" _ = [])
  · exact ⟨Nat.zero_le _, List.nodup_nil, fun _ h => absurd h List.not_mem_nil,
      fun _ h => absurd h List.not_mem_nil⟩
  · cases hs

theorem isWord_of_isDigit {c : Char} (h : c.isDigit = true) : Unicode.isWord c = true := by
  have hrange : 48 ≤ c.toNat ∧ c.toNat ≤ 57 := by
    simpa [Char.isDigit, UInt32.le_iff_toNat_le] using h
  exact Unicode.Ranges.contains_iff.mpr ⟨(0x30, 0x39), List.mem_cons_self, hrange⟩

/-- A number of 32 bits is a name of a rule. -/
theorem name_toString (n : UInt32) :
    (1 ≤ (toString n).length ∧ (toString n).length ≤ 128) ∧
      namePattern.accepts (toString n) = true := by
  have hdigits : (toString n).toList = Nat.toDigits 10 n.toNat := String.toList_ofList
  have hpos : 0 < (Nat.toDigits 10 n.toNat).length := Nat.length_toDigits_pos
  have hlt : n.toNat < 10 ^ 10 := Nat.lt_trans n.toNat_lt_size (by decide)
  have hle : (Nat.toDigits 10 n.toNat).length ≤ 10 :=
    (Nat.length_toDigits_le_iff (by decide) (by decide)).mpr hlt
  refine ⟨?_, ?_⟩
  · rw [← String.length_toList, hdigits]
    omega
  · have hconsistent : namePattern.Consistent := by simp [namePattern]
    rw [Pattern.accepts_iff hconsistent, namePattern, Pattern.matches_atLeastOnce_set, hdigits]
    refine ⟨Nat.toDigits_ne_nil, fun c hc => ?_⟩
    have hdigit : c.isDigit = true := Nat.isDigit_of_mem_toDigits (by decide) (by decide) hc
    exact CharSet.contains_union.mpr (.inl (isWord_of_isDigit hdigit))

theorem check_commonRule (path : String) (priority : UInt32) :
    (commonRule priority).check path = [] := by
  obtain ⟨hlength, hname⟩ := name_toString priority
  have hstatement : ∀ path, (Statement.ofBody commonGroup.body).check path .top = [] :=
    wellFormed_commonGroup.check_eq_nil
  have hvisibility : ∀ path, (Visibility.ofMetric "common").check path = [] := by
    intro path
    rw [Visibility.check, List.append_eq_nil_iff, Check.length_eq_nil_iff, Check.format_eq_nil_iff]
    decide +kernel
  have haction : ∀ path, (commonRule priority).checkAction path = [] := by
    intro path
    simp [Rule.checkAction, OverrideAction.check, commonRule, Rule.usesRuleGroup, commonGroup,
      Kind.body, StatementBody.isRuleGroup, StatementBody.blank, Statement.body]
  simp only [Rule.check, List.append_eq_nil_iff, Check.length_eq_nil_iff, Check.format_eq_nil_iff]
  exact ⟨⟨⟨⟨⟨hlength, hname⟩, haction path⟩, hstatement _⟩, hvisibility _⟩, rfl⟩

theorem units_commonAcl (priorities : List UInt32) :
    (commonAcl priorities).units = 700 * priorities.length := by
  have hunits : ∀ priority, (commonRule priority).statement.units = 700 := fun _ => rfl
  rw [units, commonAcl, List.map_map]
  simp [Function.comp_def, hunits, Nat.mul_comm]

theorem capacity_commonAcl (priorities : List UInt32) :
    (commonAcl priorities).capacity = .ofNat (700 * priorities.length) := by
  have hrules : ∀ rule ∈ (commonAcl priorities).rules, WellFormed .top rule.statement := by
    intro rule hrule
    obtain ⟨priority, -, rfl⟩ := List.mem_map.mp hrule
    exact wellFormed_commonGroup
  rw [capacity_eq hrules, units_commonAcl]

/-- The list passes its check where 32 bits of its number of units are within the
limit. -/
theorem validate_commonAcl {priorities : List UInt32} (hdistinct : priorities.Nodup)
    (hcapacity : UInt32.ofNat (700 * priorities.length) ≤ maxCapacity) :
    Resource.validate (commonAcl priorities) = .ok () := by
  have hnames : (priorities.map fun priority => toString priority).Nodup :=
    hdistinct.map fun _ _ => toString_uint32_injective
  have hwithin : (commonAcl priorities).capacity ≤ maxCapacity := by
    rwa [capacity_commonAcl]
  have hchecks : Path.flatMapItems "rule" (commonAcl priorities).rules Rule.check = [] := by
    rw [Path.flatMapItems_eq_nil_iff]
    intro i hi
    obtain ⟨priority, -, hrule⟩ := List.mem_map.mp (List.getElem_mem hi)
    rw [← hrule]
    exact check_commonRule _ _
  -- apart from the rules the list is as good as the one without rules
  have hempty : (commonAcl []).violations = [] := by decide +kernel
  refine Resource.validate_eq_ok_iff.mpr (show (commonAcl priorities).violations = [] from ?_)
  simp only [violations, List.append_eq_nil_iff, Check.unique_eq_nil_iff, checkCapacity,
    Check.that_eq_nil_iff, decide_eq_true_eq] at hempty ⊢
  obtain ⟨⟨⟨⟨⟨⟨hlist, -⟩, -⟩, -⟩, -⟩, hvisibility⟩, htags⟩ := hempty
  refine ⟨⟨⟨⟨⟨⟨hlist, ?_⟩, ?_⟩, hchecks⟩, hwithin⟩, hvisibility⟩, htags⟩
  · rwa [commonAcl, List.map_map]
  · rwa [commonAcl, List.map_map]

theorem capacity_of_validate_commonAcl :
    Resource.validate (commonAcl [0, 1]) = .ok () ∧ (commonAcl [0, 1]).units = 1400 ∧
      (commonAcl [0, 1]).capacity.toNat = (commonAcl [0, 1]).units := by
  have h : Resource.validate (commonAcl [0, 1]) = .ok () :=
    validate_commonAcl (by decide) (by decide)
  have hunits : (commonAcl [0, 1]).units = 1400 := units_commonAcl _
  have hfits : (commonAcl [0, 1]).units < UInt32.size := by
    rw [hunits]
    decide
  exact ⟨h, hunits, ((capacity_of_validate h).2.1.mpr hfits).2⟩

/-- The list that uses the group at 6135668 priorities. -/
def crowdedAcl : WebAcl :=
  commonAcl ((List.range 6135668).map UInt32.ofNat)

/-- The list passes its check, and its capacity is not its number of units. -/
theorem validate_crowdedAcl : Resource.validate crowdedAcl = .ok () ∧
    crowdedAcl.units = 4294967600 ∧ crowdedAcl.capacity = 304 := by
  have hlength : ((List.range 6135668).map UInt32.ofNat).length = 6135668 := by
    rw [List.length_map, List.length_range]
  have hdistinct : ((List.range 6135668).map UInt32.ofNat).Nodup := by
    refine List.nodup_range.map_on fun m hm n hn heq => ?_
    have hsize : 6135668 < UInt32.size := by decide
    have hm : m < 6135668 := List.mem_range.mp hm
    have hn : n < 6135668 := List.mem_range.mp hn
    have hsame := congrArg UInt32.toNat heq
    rwa [UInt32.toNat_ofNat_of_lt' (by omega), UInt32.toNat_ofNat_of_lt' (by omega)] at hsame
  refine ⟨validate_commonAcl hdistinct ?_, ?_, ?_⟩
  · rw [hlength]
    decide
  · rw [crowdedAcl, units_commonAcl, hlength]
  · rw [crowdedAcl, capacity_commonAcl, hlength]
    decide

end InfraSynth.Aws.WebAcl

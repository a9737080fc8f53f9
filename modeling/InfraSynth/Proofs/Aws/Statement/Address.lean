import InfraSynth.Proofs.Aws.Statement.WellFormed
import InfraSynth.Proofs.Check.Path

/-!
# Where statements stand in a tree

An address is the list of steps that lead from the root of a tree to one of its
statements, and `pathAt` is the path that the check gives to this statement.

## Strategy

Paths are decoded step by step.  The five kinds of steps begin with different texts, and
the number in a step ends with a bracket, so two steps from one statement do not begin the
same text (`Step.eq_of_prefixes`).  Hence if the paths of two addresses begin the same text,
one of the addresses begins with the other (`prefix_or_prefix_of_pathAt`).

What the check finds at a statement itself is what it finds if nothing is wrong with the
inner statements, `StatementBody.found`.  This names places of the statement from which no
step goes on (`StatementBody.namesOnly_found`), and with all inner statements it is everything
that the check finds (`Statement.mem_check_iff`).  `Statement.pathsTell` puts these together.
-/

namespace InfraSynth.Aws.WebAcl

open Check (NamesOnly NamesUnder namesOnly_that_field namesOnly_exactlyOneOf_fields
  namesUnder_that namesUnder_that_field namesUnder_that_append namesUnder_exactlyOneOf_fields)

/-! ## Steps -/

/-- The way from a statement to one inside it. -/
inductive Step
  /-- To one of the statements of a conjunction. -/
  | conjunct (i : Nat)
  /-- To one of the statements of a disjunction. -/
  | disjunct (i : Nat)
  /-- To the statement that is negated. -/
  | negated
  /-- To the statement that restricts a rate limit. -/
  | limited
  /-- To the statement that restricts a managed group. -/
  | grouped
  deriving DecidableEq

namespace Step

/-- The path of the inner statement. -/
def path (parent : String) : Step → String
  | conjunct i => Path.index (Path.field (Path.field parent "and_statement") "statement") i
  | disjunct i => Path.index (Path.field (Path.field parent "or_statement") "statement") i
  | negated => Path.field (Path.field parent "not_statement") "statement"
  | limited => Path.field (Path.field parent "rate_based_statement") "scope_down_statement"
  | grouped => Path.field (Path.field parent "managed_rule_group_statement") "scope_down_statement"

/-- What a step begins with in a path. -/
def head : Step → String
  | conjunct _ => "and_statement.statement["
  | disjunct _ => "or_statement.statement["
  | negated => "not_statement.statement"
  | limited => "rate_based_statement.scope_down_statement"
  | grouped => "managed_rule_group_statement.scope_down_statement"

/-- All that steps begin with. -/
def heads : List String := [
  "and_statement.statement[", "or_statement.statement[", "not_statement.statement",
  "rate_based_statement.scope_down_statement",
  "managed_rule_group_statement.scope_down_statement"]

theorem head_mem_heads (step : Step) : step.head ∈ heads := by
  cases step <;> simp [head, heads]

/-- No two different ones begin alike. -/
theorem eq_of_prefix_of_mem_heads :
    ∀ first ∈ heads, ∀ second ∈ heads, first.toList <+: second.toList → first = second := by
  decide

variable {s t : Step} {parent : String} {text : List Char}

/-- The path of an item of one of the lists of statements. -/
theorem toList_item_path {kind : String} (h : kind.isEmpty = false) (i : Nat) :
    (Path.index (Path.field (Path.field parent kind) "statement") i).toList =
      Path.stem parent ++ ((kind ++ ".statement[").toList ++ (Nat.toDigits 10 i ++ [']'])) := by
  rw [Path.toList_index, Path.toList_field, Path.stem_field h, String.toList_append]
  simp

theorem exists_toList_path (step : Step) (parent : String) :
    ∃ rest, (step.path parent).toList = Path.stem parent ++ (step.head.toList ++ rest) ∧
      ',' ∉ rest := by
  cases step with
  | conjunct i | disjunct i =>
      exact ⟨Nat.toDigits 10 i ++ [']'], toList_item_path rfl i, Path.comma_not_mem_number i⟩
  | negated | limited | grouped =>
      refine ⟨[], ?_, List.not_mem_nil⟩
      rw [path, Path.toList_field, Path.stem_field rfl, List.append_assoc]
      rfl

theorem head_prefix_of_path (h : (s.path parent).toList <+: Path.stem parent ++ text) :
    s.head.toList <+: text := by
  obtain ⟨rest, hpath, -⟩ := s.exists_toList_path parent
  rw [hpath, List.prefix_append_right_inj] at h
  exact (List.prefix_append ..).trans h

/-- Two steps from one statement do not begin the same text. -/
theorem eq_of_prefixes (h : (s.path parent).toList <+: text) (h' : (t.path parent).toList <+: text) :
    s = t := by
  obtain ⟨rest, hs, -⟩ := s.exists_toList_path parent
  obtain ⟨more, rfl⟩ : Path.stem parent <+: text := (hs ▸ List.prefix_append ..).trans h
  have hheads : s.head = t.head := by
    have hcompare := List.prefix_or_prefix_of_prefix (head_prefix_of_path h)
      (head_prefix_of_path h')
    rcases hcompare with hst | hts
    · exact eq_of_prefix_of_mem_heads _ s.head_mem_heads _ t.head_mem_heads hst
    · exact (eq_of_prefix_of_mem_heads _ t.head_mem_heads _ s.head_mem_heads hts).symm
  cases s with
  | conjunct i =>
      cases t with
      | conjunct j => rw [Path.eq_of_prefix_index h h']
      | disjunct | negated | limited | grouped => simp [head] at hheads
  | disjunct i =>
      cases t with
      | disjunct j => rw [Path.eq_of_prefix_index h h']
      | conjunct | negated | limited | grouped => simp [head] at hheads
  | negated =>
      cases t with
      | negated => rfl
      | conjunct | disjunct | limited | grouped => simp [head] at hheads
  | limited =>
      cases t with
      | limited => rfl
      | conjunct | disjunct | negated | grouped => simp [head] at hheads
  | grouped =>
      cases t with
      | grouped => rfl
      | conjunct | disjunct | negated | limited => simp [head] at hheads

/-- The path of an inner statement goes on from that of the one it is in. -/
theorem exists_path_eq (step : Step) (parent : String) :
    ∃ more, more ≠ [] ∧ (step.path parent).toList = parent.toList ++ more ∧ ',' ∉ more := by
  obtain ⟨rest, hpath, hrest⟩ := step.exists_toList_path parent
  obtain ⟨point, hstem, hpoint⟩ := Path.exists_stem_eq parent
  have hhead : step.head.toList ≠ [] ∧ ',' ∉ step.head.toList := by
    have hall : ∀ head ∈ heads, head.toList ≠ [] ∧ ',' ∉ head.toList := by decide
    exact hall _ step.head_mem_heads
  refine ⟨point ++ (step.head.toList ++ rest), ?_, ?_, ?_⟩
  · simp [hhead.1]
  · rw [hpath, hstem, List.append_assoc]
  · simp only [List.mem_append, not_or]
    exact ⟨hpoint, hhead.2, hrest⟩

end Step

/-! ## Paths of addresses -/

/-- The path of the statement at an address, given that of the root. -/
def pathAt (start : String) (address : List Step) : String :=
  address.foldl Step.path start

section PathAt

variable {start : String} {a b : List Step} {text : List Char}

theorem pathAt_cons (step : Step) (rest : List Step) :
    pathAt start (step :: rest) = pathAt (step.path start) rest :=
  rfl

theorem pathAt_append (a b : List Step) : pathAt start (a ++ b) = pathAt (pathAt start a) b :=
  List.foldl_append ..

theorem exists_pathAt_eq (start : String) (address : List Step) :
    ∃ more, (pathAt start address).toList = start.toList ++ more ∧ ',' ∉ more := by
  induction address generalizing start with
  | nil => exact ⟨[], (List.append_nil _).symm, List.not_mem_nil⟩
  | cons step rest ih =>
      obtain ⟨first, -, hfirst, hcomma⟩ := step.exists_path_eq start
      obtain ⟨more, hmore, hcomma'⟩ := ih (step.path start)
      refine ⟨first ++ more, ?_, ?_⟩
      · rw [pathAt_cons, hmore, hfirst, List.append_assoc]
      · rw [List.mem_append, not_or]
        exact ⟨hcomma, hcomma'⟩

theorem prefix_pathAt (start : String) (address : List Step) :
    start.toList <+: (pathAt start address).toList := by
  obtain ⟨more, hmore, -⟩ := exists_pathAt_eq start address
  exact ⟨more, hmore.symm⟩

/-- If two paths begin the same text, one of the addresses begins with the other. -/
theorem prefix_or_prefix_of_pathAt (ha : (pathAt start a).toList <+: text)
    (hb : (pathAt start b).toList <+: text) : a <+: b ∨ b <+: a := by
  induction a generalizing start b with
  | nil => exact Or.inl List.nil_prefix
  | cons s a ih =>
      cases b with
      | nil => exact Or.inr List.nil_prefix
      | cons t b =>
          rw [pathAt_cons] at ha hb
          have hs : (s.path start).toList <+: text := (prefix_pathAt _ _).trans ha
          have ht : (t.path start).toList <+: text := (prefix_pathAt _ _).trans hb
          obtain rfl : s = t := Step.eq_of_prefixes hs ht
          simp only [List.prefix_cons_inj]
          exact ih ha hb

/-- Only the root has the path of the root. -/
theorem eq_nil_of_pathAt_eq (h : pathAt start a = start) : a = [] := by
  cases a with
  | nil => rfl
  | cons step rest =>
      obtain ⟨more, hne, hstep, -⟩ := step.exists_path_eq start
      have hpos : 0 < more.length := List.length_pos_iff.mpr hne
      have hlength := (prefix_pathAt (step.path start) rest).length_le
      rw [← pathAt_cons, h, hstep, List.length_append] at hlength
      omega

/-- Different addresses have different paths. -/
theorem pathAt_injective (start : String) : Function.Injective (pathAt start) := by
  intro a b h
  have ha : (pathAt start a).toList <+: (pathAt start b).toList :=
    ⟨[], by rw [List.append_nil, h]⟩
  rcases prefix_or_prefix_of_pathAt ha List.prefix_rfl with ⟨more, rfl⟩ | ⟨more, rfl⟩
  · rw [pathAt_append] at h
    rw [eq_nil_of_pathAt_eq h.symm, List.append_nil]
  · rw [pathAt_append] at h
    rw [eq_nil_of_pathAt_eq h, List.append_nil]

/-- No step goes on like this. -/
def IsOwn (rest : List Char) : Prop :=
  ∀ head ∈ Step.heads, ¬head.toList <+: rest

instance (rest : List Char) : Decidable (IsOwn rest) :=
  inferInstanceAs (Decidable (∀ head ∈ Step.heads, ¬head.toList <+: rest))

/-- A place of a statement itself lies under no paths but those of the statement and of the
ones around it. -/
theorem prefix_of_pathAt (hown : IsOwn text)
    (h : (pathAt start b).toList <+: Path.stem (pathAt start a) ++ text) : b <+: a := by
  rcases prefix_or_prefix_of_pathAt Path.prefix_stem_append h with ⟨more, rfl⟩ | hba
  · cases more with
    | nil => simp
    | cons step rest =>
        -- the path of `b` would begin with a step from the statement
        rw [pathAt_append, pathAt_cons] at h
        exact absurd (Step.head_prefix_of_path ((prefix_pathAt _ _).trans h))
          (hown _ step.head_mem_heads)
  · exact hba

end PathAt

/-! ## Statements at addresses -/

/-- A check that finds nothing. -/
def StatementCheck.silent : StatementCheck :=
  fun _ _ => []

namespace StatementBody

variable {σ : Type} {body : StatementBody σ}

/-- The inner statement to which a step leads. -/
def child? (body : StatementBody σ) : Step → Option σ
  | .conjunct i => body.conjunction.bind (·.statements[i]?)
  | .disjunct i => body.disjunction.bind (·.statements[i]?)
  | .negated => body.negation.map (·.statement)
  | .limited => body.rateBased.bind (·.scopeDown)
  | .grouped => body.managedGroup.bind (·.scopeDown)

/-- What the check finds at a statement itself. -/
def found (body : StatementBody σ) : StatementCheck :=
  (body.map fun _ => .silent).check

theorem mem_children_of_child? {step : Step} {inner : σ} (h : body.child? step = some inner) :
    inner ∈ body.children := by
  simp only [children, List.mem_append, List.mem_flatMap, List.mem_map, Option.mem_toList]
  cases step with
  | conjunct i =>
      obtain ⟨s, hs, hinner⟩ := Option.bind_eq_some_iff.mp h
      exact Or.inl (Or.inl (Or.inl (Or.inl ⟨s, hs, List.mem_of_getElem? hinner⟩)))
  | disjunct i =>
      obtain ⟨s, hs, hinner⟩ := Option.bind_eq_some_iff.mp h
      exact Or.inl (Or.inl (Or.inl (Or.inr ⟨s, hs, List.mem_of_getElem? hinner⟩)))
  | negated =>
      obtain ⟨s, hs, hinner⟩ := Option.map_eq_some_iff.mp h
      exact Or.inl (Or.inl (Or.inr ⟨s, hs, hinner⟩))
  | limited =>
      obtain ⟨s, hs, hinner⟩ := Option.bind_eq_some_iff.mp h
      exact Or.inl (Or.inr ⟨s, hs, hinner⟩)
  | grouped =>
      obtain ⟨s, hs, hinner⟩ := Option.bind_eq_some_iff.mp h
      exact Or.inr ⟨s, hs, hinner⟩

/-- The steps from a statement, kind by kind. -/
theorem exists_child_iff {P : Step → σ → Prop} :
    (∃ step inner, body.child? step = some inner ∧ P step inner) ↔
      (∃ s ∈ body.managedGroup, ∃ inner ∈ s.scopeDown, P .grouped inner) ∨
      (∃ s ∈ body.rateBased, ∃ inner ∈ s.scopeDown, P .limited inner) ∨
      (∃ s ∈ body.conjunction, ∃ i inner, s.statements[i]? = some inner ∧ P (.conjunct i) inner) ∨
      (∃ s ∈ body.disjunction, ∃ i inner, s.statements[i]? = some inner ∧ P (.disjunct i) inner) ∨
      ∃ s ∈ body.negation, P .negated s.statement := by
  constructor
  · rintro ⟨step, inner, hchild, hP⟩
    cases step with
    | conjunct i =>
        obtain ⟨s, hs, hinner⟩ := Option.bind_eq_some_iff.mp hchild
        exact Or.inr (Or.inr (Or.inl ⟨s, hs, i, inner, hinner, hP⟩))
    | disjunct i =>
        obtain ⟨s, hs, hinner⟩ := Option.bind_eq_some_iff.mp hchild
        exact Or.inr (Or.inr (Or.inr (Or.inl ⟨s, hs, i, inner, hinner, hP⟩)))
    | negated =>
        obtain ⟨s, hs, rfl⟩ := Option.map_eq_some_iff.mp hchild
        exact Or.inr (Or.inr (Or.inr (Or.inr ⟨s, hs, hP⟩)))
    | limited =>
        obtain ⟨s, hs, hinner⟩ := Option.bind_eq_some_iff.mp hchild
        exact Or.inr (Or.inl ⟨s, hs, inner, hinner, hP⟩)
    | grouped =>
        obtain ⟨s, hs, hinner⟩ := Option.bind_eq_some_iff.mp hchild
        exact Or.inl ⟨s, hs, inner, hinner, hP⟩
  · rintro (⟨s, hs, inner, hinner, hP⟩ | ⟨s, hs, inner, hinner, hP⟩ | ⟨s, hs, i, inner, hinner, hP⟩ |
      ⟨s, hs, i, inner, hinner, hP⟩ | ⟨s, hs, hP⟩)
    · exact ⟨.grouped, inner, Option.bind_eq_some_iff.mpr ⟨s, hs, hinner⟩, hP⟩
    · exact ⟨.limited, inner, Option.bind_eq_some_iff.mpr ⟨s, hs, hinner⟩, hP⟩
    · exact ⟨.conjunct i, inner, Option.bind_eq_some_iff.mpr ⟨s, hs, hinner⟩, hP⟩
    · exact ⟨.disjunct i, inner, Option.bind_eq_some_iff.mpr ⟨s, hs, hinner⟩, hP⟩
    · exact ⟨.negated, s.statement, Option.map_eq_some_iff.mpr ⟨s, hs, rfl⟩, hP⟩

end StatementBody

section Inner

variable {σ : Type} {f : σ → StatementCheck} {path : String} {nesting : Nesting}
  {violation : Violation}

theorem mem_checkScopeDown_map_iff {inner : Option σ} :
    violation ∈ checkScopeDown path (inner.map f) ↔
      ∃ s ∈ inner, violation ∈ f s (Path.field path "scope_down_statement") .nested := by
  cases inner <;> simp [checkScopeDown]

theorem ManagedGroup.mem_check_map_iff {s : ManagedGroup σ} :
    violation ∈ (s.map f).check path ↔
      violation ∈ (s.map fun _ => .silent).check path ∨
      ∃ inner ∈ s.scopeDown, violation ∈ f inner (Path.field path "scope_down_statement") .nested := by
  simp [check, map, mem_checkScopeDown_map_iff, StatementCheck.silent, or_assoc]

theorem RateBased.mem_check_map_iff {s : RateBased σ} :
    violation ∈ (s.map f).check path ↔
      violation ∈ (s.map fun _ => .silent).check path ∨
      ∃ inner ∈ s.scopeDown, violation ∈ f inner (Path.field path "scope_down_statement") .nested := by
  simp only [check, map, List.mem_append, mem_checkScopeDown_map_iff, Option.isSome_map,
    StatementCheck.silent, List.not_mem_nil, and_false, exists_false, or_false]
  exact Iff.rfl

theorem StatementList.mem_check_map_iff {s : StatementList σ} :
    violation ∈ (s.map f).check path ↔
      violation ∈ (s.map fun _ => .silent).check path ∨
      ∃ i inner, s.statements[i]? = some inner ∧
        violation ∈ f inner (Path.index (Path.field path "statement") i) .nested := by
  simp only [check, map, List.mem_append, List.length_map, Path.flatMapItems_map,
    Path.mem_flatMapItems_iff, StatementCheck.silent, List.not_mem_nil, and_false, exists_false,
    or_false]

theorem Negation.mem_check_map_iff {s : Negation σ} :
    violation ∈ (s.map f).check path ↔
      violation ∈ (s.map fun _ => .silent).check path ∨
      violation ∈ f s.statement (Path.field path "statement") .nested := by
  simp only [check, map, StatementCheck.silent, List.not_mem_nil, false_or]

theorem mem_toList_flatMap_or_iff {α : Type} {value : Option α}
    {check check' : α → List Violation} {found : α → Prop}
    (h : ∀ s, violation ∈ check s ↔ violation ∈ check' s ∨ found s) :
    violation ∈ value.toList.flatMap check ↔
      violation ∈ value.toList.flatMap check' ∨ ∃ s ∈ value, found s := by
  cases value <;> simp [h]

/-- What is found at a statement is found at itself or at one of the inner statements, under
the path of the step to it. -/
theorem StatementBody.mem_check_map_iff {body : StatementBody σ} :
    violation ∈ (body.map f).check path nesting ↔
      violation ∈ body.found path nesting ∨
      ∃ step inner, body.child? step = some inner ∧
        violation ∈ f inner (step.path path) .nested := by
  rw [exists_child_iff]
  simp only [found, check, checkKind_map, List.mem_append]
  simp only [map, Option.toList_map, List.flatMap_map]
  rw [mem_toList_flatMap_or_iff fun _ => ManagedGroup.mem_check_map_iff,
    mem_toList_flatMap_or_iff fun _ => RateBased.mem_check_map_iff,
    mem_toList_flatMap_or_iff fun _ => StatementList.mem_check_map_iff,
    mem_toList_flatMap_or_iff fun _ => StatementList.mem_check_map_iff (f := f),
    mem_toList_flatMap_or_iff fun _ => Negation.mem_check_map_iff]
  simp only [Step.path]
  -- what is left is to move the inner statements to the end
  grind only

end Inner

/-! ## Names of what is found -/

section Names

variable {path : String} {nesting : Nesting}

theorem namesUnder_checkArn {value : String} : NamesUnder path (checkArn path value) := by
  unfold checkArn Check.formatOrReference
  split
  · exact .nil
  · exact namesUnder_that

theorem BlockAction.namesUnder_check {action : BlockAction} : NamesUnder path (action.check path) :=
  .toList_flatMap fun _ _ => namesUnder_that_field (by decide)

theorem RuleAction.namesUnder_check {action : RuleAction} : NamesUnder path (action.check path) := by
  refine .append ?_ (.toList_flatMap fun _ _ =>
    NamesUnder.of_field BlockAction.namesUnder_check (by decide))
  exact namesUnder_exactlyOneOf_fields [
    ("allow", action.allow.isSome), ("block", action.block.isSome), ("count", action.count.isSome),
    ("captcha", action.captcha.isSome), ("challenge", action.challenge.isSome)]
    ["allow", "block", "count", "captcha", "challenge"] rfl (by decide) (by decide)

theorem RuleOverride.namesUnder_check {override : RuleOverride} :
    NamesUnder path (override.check path) := by
  refine .append ?_ (NamesUnder.of_field RuleAction.namesUnder_check (by decide))
  exact namesUnder_that_field (by decide)

theorem RuleOverride.namesUnder_checkAll {overrides : List RuleOverride} :
    NamesUnder (Path.field path "rule_action_override") (checkAll path overrides) := by
  refine .append ?_ (.flatMapItems fun _ _ _ => NamesUnder.of_index namesUnder_check)
  refine .append namesUnder_that ?_
  exact namesUnder_that_append (by decide)

theorem FieldToMatch.namesUnder_check {field : FieldToMatch} :
    NamesUnder path (field.check path) := by
  have hone : NamesUnder (Path.field path "field_to_match") (Check.exactlyOneOf _) :=
    namesUnder_exactlyOneOf_fields field.presence
      ["all_query_arguments", "body", "method", "query_string", "single_header",
        "single_query_argument", "uri_path"] rfl (by decide) (by decide)
  refine NamesUnder.of_field (.append (hone.append ?header) ?argument) (by decide)
  case header => exact .toList_flatMap fun _ _ => namesUnder_that_field (by decide)
  case argument => exact .toList_flatMap fun _ _ => namesUnder_that_field (by decide)

theorem Transformation.namesUnder_checkAll {transformations : List Transformation} :
    NamesUnder path (checkAll path transformations) := by
  have hlist : NamesUnder (Path.field path "text_transformation") (checkAll path transformations) :=
    (namesUnder_that.append (namesUnder_that_append (by decide))).append
      (.flatMapItems fun _ _ _ => NamesUnder.of_index (namesUnder_that_append (by decide)))
  exact hlist.of_field (by decide)

theorem ByteMatch.namesUnder_check {s : ByteMatch} : NamesUnder path (s.check path) := by
  refine .append ?_ Transformation.namesUnder_checkAll
  refine .append ?_ FieldToMatch.namesUnder_check
  refine .append ?_ ?_ <;> exact namesUnder_that_field (by decide)

theorem GeoMatch.namesUnder_check {s : GeoMatch} : NamesUnder path (s.check path) := by
  have hcodes : NamesUnder (Path.field path "country_codes") (s.check path) :=
    (namesUnder_that.append namesUnder_that).append
      (.flatMapItems fun _ _ _ => NamesUnder.of_index namesUnder_that)
  exact hcodes.of_field (by decide)

theorem IpSetReference.namesUnder_check {s : IpSetReference} : NamesUnder path (s.check path) :=
  NamesUnder.of_field namesUnder_checkArn (by decide)

theorem SizeConstraint.namesUnder_check {s : SizeConstraint} : NamesUnder path (s.check path) := by
  refine .append ?_ Transformation.namesUnder_checkAll
  refine .append ?_ FieldToMatch.namesUnder_check
  refine .append ?_ ?_ <;> exact namesUnder_that_field (by decide)

theorem AttackMatch.namesUnder_check {s : AttackMatch} : NamesUnder path (s.check path) :=
  FieldToMatch.namesUnder_check.append Transformation.namesUnder_checkAll

theorem PatternSetReference.namesUnder_check {s : PatternSetReference} :
    NamesUnder path (s.check path) := by
  refine .append ?_ Transformation.namesUnder_checkAll
  refine .append ?_ FieldToMatch.namesUnder_check
  exact NamesUnder.of_field namesUnder_checkArn (by decide)

theorem LabelMatch.namesUnder_check {s : LabelMatch} : NamesUnder path (s.check path) :=
  (namesUnder_that_field (by decide)).append (namesUnder_that_field (by decide))

theorem RuleGroupReference.namesUnder_check {s : RuleGroupReference} :
    NamesUnder path (s.check path) := by
  refine .append ?_ (NamesUnder.of_field RuleOverride.namesUnder_checkAll (by decide))
  exact NamesUnder.of_field namesUnder_checkArn (by decide)

/-- Nothing under a path like this goes on like a step. -/
def Apart (name : String) : Prop :=
  ∀ head ∈ Step.heads, ¬head.toList <+: name.toList ∧ ¬name.toList <+: head.toList

instance (name : String) : Decidable (Apart name) :=
  inferInstanceAs (Decidable (∀ head ∈ Step.heads,
    ¬head.toList <+: name.toList ∧ ¬name.toList <+: head.toList))

theorem Apart.isOwn_append {name : String} (h : Apart name) (rest : List Char) :
    IsOwn (name.toList ++ rest) := by
  intro head hhead hprefix
  obtain ⟨hname, hname'⟩ := h head hhead
  exact (List.prefix_or_prefix_of_prefix hprefix (List.prefix_append ..)).elim hname hname'

theorem namesOnly_isOwn {name : String} {violations : List Violation}
    (h : NamesUnder (Path.field path name) violations) (hcomma : ',' ∉ name.toList)
    (hapart : Apart name) : NamesOnly (Path.stem path) IsOwn violations := by
  rw [NamesUnder, Path.toList_field] at h
  exact h.of_append hcomma fun rest _ => hapart.isOwn_append rest

theorem namesOnly_isOwn_field {kind name : String} {violations : List Violation}
    (h : NamesUnder (Path.field (Path.field path kind) name) violations)
    (hkind : kind.isEmpty = false) (hcomma : ',' ∉ (kind ++ "." ++ name).toList)
    (hapart : Apart (kind ++ "." ++ name)) : NamesOnly (Path.stem path) IsOwn violations := by
  rw [Path.field_field hkind] at h
  exact namesOnly_isOwn h hcomma hapart

variable {σ : Type}

theorem checkScopeDown_silent {inner : Option σ} :
    checkScopeDown path (inner.map fun _ => .silent) = [] := by
  cases inner <;> rfl

theorem ManagedGroup.namesOnly_check {s : ManagedGroup σ} :
    NamesOnly (Path.stem path) IsOwn
      ((s.map fun _ => .silent).check (Path.field path "managed_rule_group_statement")) := by
  rw [check, map, checkScopeDown_silent, List.append_nil]
  refine .append (.append ?name ?vendorName) ?overrides
  case name => exact namesOnly_isOwn_field namesUnder_that rfl (by decide) (by decide)
  case vendorName => exact namesOnly_isOwn_field namesUnder_that rfl (by decide) (by decide)
  case overrides =>
    exact namesOnly_isOwn_field RuleOverride.namesUnder_checkAll rfl (by decide) (by decide)

theorem RateBased.namesOnly_check {s : RateBased σ} :
    NamesOnly (Path.stem path) IsOwn
      ((s.map fun _ => .silent).check (Path.field path "rate_based_statement")) := by
  rw [check, map, checkScopeDown_silent, List.append_nil]
  refine .append (.append (.append ?limit ?key) ?dependency) (.toList_flatMap ?window)
  case limit => exact namesOnly_isOwn_field namesUnder_that rfl (by decide) (by decide)
  case key => exact namesOnly_isOwn_field namesUnder_that rfl (by decide) (by decide)
  case dependency => exact namesOnly_isOwn_field namesUnder_that rfl (by decide) (by decide)
  case window =>
    exact fun _ _ => namesOnly_isOwn_field namesUnder_that rfl (by decide) (by decide)

/-- The list is named as a whole, which no step begins with. -/
theorem StatementList.namesOnly_check {s : StatementList σ} {kind : String}
    (hkind : kind.isEmpty = false) (hcomma : ',' ∉ (kind ++ "." ++ "statement").toList)
    (hown : IsOwn (kind ++ "." ++ "statement").toList) :
    NamesOnly (Path.stem path) IsOwn
      ((s.map fun _ => .silent).check (Path.field path kind)) := by
  have hitems : ∀ parent, Path.flatMapItems parent (s.statements.map fun _ => StatementCheck.silent)
      (fun path check => check path .nested) = [] := by
    intro parent
    rw [Path.flatMapItems_map]
    simp [StatementCheck.silent, Path.flatMapItems]
  rw [check, map, hitems, List.append_nil, Path.field_field hkind]
  exact namesOnly_that_field hcomma hown

namespace StatementBody

variable {body : StatementBody σ}

/-- The kinds are named by their fields. -/
def kindNames : List String := [
  "byte_match_statement", "geo_match_statement", "ip_set_reference_statement",
  "managed_rule_group_statement", "rate_based_statement", "and_statement", "or_statement",
  "not_statement", "size_constraint_statement", "sqli_match_statement", "xss_match_statement",
  "regex_pattern_set_reference_statement", "label_match_statement",
  "rule_group_reference_statement"]

theorem isOwn_of_mem_kindNames : ∀ name ∈ kindNames, ',' ∉ name.toList ∧ IsOwn name.toList := by
  decide

theorem namesOnly_checkKind : NamesOnly (Path.stem path) IsOwn (body.checkKind path nesting) := by
  refine .append ?_ ?_
  · exact namesOnly_exactlyOneOf_fields body.presence kindNames rfl (by decide)
      isOwn_of_mem_kindNames
  · split
    · intro violation hmem
      obtain ⟨⟨name, present⟩, hname, hforbids⟩ := List.mem_flatMap.mp hmem
      have hkind : name ∈ kindNames := by
        simp only [topOnly, List.mem_cons, Prod.mk.injEq, List.not_mem_nil, or_false] at hname
        rcases hname with ⟨rfl, -⟩ | ⟨rfl, -⟩ | ⟨rfl, -⟩ <;> simp [kindNames]
      obtain ⟨hcomma, hown⟩ := isOwn_of_mem_kindNames name hkind
      exact namesOnly_that_field hcomma hown violation hforbids
    · exact .nil

/-- What is found at a statement itself names places of the statement from which no step
goes on. -/
theorem namesOnly_found : NamesOnly (Path.stem path) IsOwn (body.found path nesting) := by
  -- the parts of the check, from the last to the first
  unfold found check
  refine .append ?_ (.toList_flatMap fun _ _ =>
    namesOnly_isOwn RuleGroupReference.namesUnder_check (by decide) (by decide))
  refine .append ?_ (.toList_flatMap fun _ _ =>
    namesOnly_isOwn LabelMatch.namesUnder_check (by decide) (by decide))
  refine .append ?_ (.toList_flatMap fun _ _ =>
    namesOnly_isOwn PatternSetReference.namesUnder_check (by decide) (by decide))
  refine .append ?_ (.toList_flatMap fun _ _ =>
    namesOnly_isOwn AttackMatch.namesUnder_check (by decide) (by decide))
  refine .append ?_ (.toList_flatMap fun _ _ =>
    namesOnly_isOwn AttackMatch.namesUnder_check (by decide) (by decide))
  refine .append ?_ (.toList_flatMap fun _ _ =>
    namesOnly_isOwn SizeConstraint.namesUnder_check (by decide) (by decide))
  refine .append ?_ (NamesOnly.toList_map_flatMap fun _ _ => .nil)
  refine .append ?_ (NamesOnly.toList_map_flatMap fun _ _ =>
    StatementList.namesOnly_check rfl (by decide) (by decide))
  refine .append ?_ (NamesOnly.toList_map_flatMap fun _ _ =>
    StatementList.namesOnly_check rfl (by decide) (by decide))
  refine .append ?_ (NamesOnly.toList_map_flatMap fun _ _ => RateBased.namesOnly_check)
  refine .append ?_ (NamesOnly.toList_map_flatMap fun _ _ => ManagedGroup.namesOnly_check)
  refine .append ?_ (.toList_flatMap fun _ _ =>
    namesOnly_isOwn IpSetReference.namesUnder_check (by decide) (by decide))
  refine .append ?_ (.toList_flatMap fun _ _ =>
    namesOnly_isOwn GeoMatch.namesUnder_check (by decide) (by decide))
  refine .append ?_ (.toList_flatMap fun _ _ =>
    namesOnly_isOwn ByteMatch.namesUnder_check (by decide) (by decide))
  exact namesOnly_checkKind

end StatementBody

end Names

/-! ## Trees -/

namespace Statement

/-- The statement at an address of a tree. -/
def at? : Statement → List Step → Option Statement
  | statement, [] => some statement
  | statement, step :: rest => (statement.body.child? step).bind (·.at? rest)

/-- What the check finds at the root of a tree itself. -/
def found (statement : Statement) : StatementCheck :=
  statement.body.found

theorem at?_append (statement : Statement) (a b : List Step) :
    statement.at? (a ++ b) = (statement.at? a).bind (·.at? b) := by
  induction a generalizing statement with
  | nil => rfl
  | cons step rest ih =>
      rw [List.cons_append, at?, at?, Option.bind_assoc]
      exact Option.bind_congr fun inner _ => ih inner

theorem at?_concat_eq_some_iff {statement node inner : Statement} {address : List Step}
    {step : Step} (hnode : statement.at? address = some node) :
    statement.at? (address ++ [step]) = some inner ↔ node.body.child? step = some inner := by
  rw [at?_append, hnode, Option.bind_some, at?, Option.bind_eq_some_iff]
  simp [at?]

/-- Where the statement at an address stands, given where the root stands. -/
def nestingAt (nesting : Nesting) : List Step → Nesting
  | [] => nesting
  | _ :: _ => .nested

theorem nestingAt_nested (address : List Step) : nestingAt .nested address = .nested := by
  cases address <;> rfl

/-- The check finds what it finds at each of the statements, under the paths of these. -/
theorem mem_check_iff {statement : Statement} {start : String} {nesting : Nesting}
    {violation : Violation} :
    violation ∈ statement.check start nesting ↔
      ∃ address node, statement.at? address = some node ∧
        violation ∈ node.found (pathAt start address) (nestingAt nesting address) := by
  induction statement using Statement.induction generalizing start nesting with
  | step body ih =>
      rw [check_ofBody, StatementBody.mem_check_map_iff]
      constructor
      · rintro (hroot | ⟨step, inner, hchild, hinner⟩)
        · exact ⟨[], _, rfl, hroot⟩
        · obtain ⟨rest, node, hnode, hfound⟩ :=
            (ih inner (StatementBody.mem_children_of_child? hchild)).mp hinner
          rw [nestingAt_nested] at hfound
          exact ⟨step :: rest, node, Option.bind_eq_some_iff.mpr ⟨inner, hchild, hnode⟩, hfound⟩
      · rintro ⟨address, node, hnode, hfound⟩
        cases address with
        | nil =>
            obtain rfl := Option.some.inj hnode
            exact Or.inl hfound
        | cons step rest =>
            obtain ⟨inner, hchild, hrest⟩ := Option.bind_eq_some_iff.mp hnode
            refine Or.inr ⟨step, inner, hchild, ?_⟩
            refine (ih inner (StatementBody.mem_children_of_child? hchild)).mpr
              ⟨rest, node, hrest, ?_⟩
            rw [nestingAt_nested]
            exact hfound

/-- A violation that is found at a statement names only places of the statement itself. -/
theorem exists_listed_of_mem_found {node : Statement} {start : String} {address : List Step}
    {nesting : Nesting} {violation : Violation}
    (h : violation ∈ node.found (pathAt start address) nesting) :
    ∃ paths, Path.Listed start.toList violation.field paths ∧
      ∀ path ∈ paths, ∃ own, IsOwn own ∧
        path.toList = Path.stem (pathAt start address) ++ own := by
  obtain ⟨more, hpath, hmore⟩ := exists_pathAt_eq start address
  obtain ⟨point, hstem, hpoint⟩ := Path.exists_stem_eq (pathAt start address)
  rw [hpath, List.append_assoc] at hstem
  have hnames := StatementBody.namesOnly_found violation h
  rw [hstem] at hnames ⊢
  have hcomma : ',' ∉ more ++ point := by
    rw [List.mem_append, not_or]
    exact ⟨hmore, hpoint⟩
  have hstart : violation.Names start.toList fun rest =>
      ∃ own, IsOwn own ∧ rest = more ++ point ++ own :=
    hnames.of_append hcomma fun own hown => ⟨own, hown, rfl⟩
  obtain ⟨paths, hlisted, hpaths⟩ := hstart.exists_listed
  refine ⟨paths, hlisted, fun path hmem => ?_⟩
  obtain ⟨_, hrest, own, hown, rfl⟩ := hpaths path hmem
  exact ⟨own, hown, by rw [hrest, List.append_assoc, List.append_assoc, List.append_assoc]⟩

/-- The paths in what a check finds tell the statements that it found it at. -/
structure PathsTell (statement : Statement) (start : String) (nesting : Nesting) : Prop where
  /-- Different statements of the tree have different paths. -/
  distinct : ∀ a b, (statement.at? a).isSome → (statement.at? b).isSome →
    pathAt start a = pathAt start b → a = b
  /-- Whatever is checked in the inner statements, this is done under their paths. -/
  visited : ∀ address node, statement.at? address = some node →
    ∀ (inside : Statement → StatementCheck) (violation : Violation),
      violation ∈ (node.body.map inside).check (pathAt start address)
          (nestingAt nesting address) ↔
        violation ∈ node.found (pathAt start address) (nestingAt nesting address) ∨
        ∃ step inner, statement.at? (address ++ [step]) = some inner ∧
          violation ∈ inside inner (pathAt start (address ++ [step])) .nested
  /-- The check finds what it finds at each of the statements. -/
  found : ∀ violation, violation ∈ statement.check start nesting ↔
    ∃ address node, statement.at? address = some node ∧
      violation ∈ node.found (pathAt start address) (nestingAt nesting address)
  /-- What is found at a statement names paths, and all of them begin with that of the
  statement and otherwise only with those of the statements around it. -/
  named : ∀ address node, statement.at? address = some node →
    ∀ violation ∈ node.found (pathAt start address) (nestingAt nesting address),
      (∃ paths, Path.Listed start.toList violation.field paths) ∧
      ∀ paths, Path.Listed start.toList violation.field paths → ∀ path ∈ paths,
        (pathAt start address).toList <+: path.toList ∧
        ∀ other, (statement.at? other).isSome →
          (pathAt start other).toList <+: path.toList → other <+: address

/-- **Violations in a tree of statements tell where they were found**, whatever the tree
and the path of its root. -/
theorem pathsTell (statement : Statement) (start : String) (nesting : Nesting) :
    statement.PathsTell start nesting where
  distinct _ _ _ _ h := pathAt_injective start h
  visited address node hnode inside violation := by
    simp only [at?_concat_eq_some_iff hnode, pathAt_append]
    exact StatementBody.mem_check_map_iff
  found _ := mem_check_iff
  named address node _ violation hviolation := by
    obtain ⟨paths, hlisted, hown⟩ := exists_listed_of_mem_found hviolation
    refine ⟨⟨paths, hlisted⟩, fun paths' hlisted' path hpath => ?_⟩
    obtain rfl := hlisted.unique hlisted'
    obtain ⟨own, hown, htext⟩ := hown path hpath
    rw [htext]
    exact ⟨Path.prefix_stem_append, fun other _ hother => prefix_of_pathAt hown hother⟩

end Statement

end InfraSynth.Aws.WebAcl

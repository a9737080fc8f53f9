import InfraSynth.Aws.WebAcl.StatementCheck
import InfraSynth.Proofs.Aws.Arn
import InfraSynth.Proofs.Aws.Statement.Tree
import Mathlib.Data.List.Nodup

/-!
# Well-formed statements

`WellFormed` says by induction which trees of statements are well formed: the
statement has exactly one kind, it keeps the limits of that kind, and every
inner statement is well formed inside another one.  The kinds that use a group
of rules or limit a rate keep their limits only at the top of a rule.

## Strategy

What a statement inspects, how it transforms it and which actions it overrides
are checked in several kinds; for each of these, and then for each kind, a lemma
says that its check is passed exactly if the limits are kept.  A kind with
inner statements is checked given checks of these, so its lemma takes what is
known of them as a hypothesis.  For trees the result is then an induction with
`StatementBody.check_map_eq_nil_iff` as its step.
-/

namespace InfraSynth.Aws.WebAcl

/-- A text with a character that is no white space. -/
def NotBlank (text : String) : Prop :=
  ∃ c ∈ text.toList, ¬Unicode.isSpace c = true

/-- An interpolation, or a resource name. -/
def RefersToArn (value : String) : Prop :=
  Interpolation.IsReference value ∨ IsArn value

/-- Exactly one of several flags is set. -/
def ExactlyOne (flags : List Bool) : Prop :=
  flags.count true = 1

/-! ## Actions -/

/-- One action is chosen, and an answer to a blocked request has a code of
200 to 599. -/
structure RuleAction.WellFormed (action : RuleAction) : Prop where
  one : ExactlyOne [action.allow.isSome, action.block.isSome, action.count.isSome,
    action.captcha.isSome, action.challenge.isSome]
  code : ∀ block ∈ action.block, ∀ response ∈ block.customResponse,
    200 ≤ response.responseCode.toNat ∧ response.responseCode.toNat ≤ 599

/-- At most 100 overrides for rules with different names. -/
structure RuleOverride.ListWellFormed (overrides : List RuleOverride) : Prop where
  size : overrides.length ≤ 100
  distinct : (overrides.map (·.name)).Nodup
  name : ∀ override ∈ overrides, NotBlank override.name
  action : ∀ override ∈ overrides, override.action.WellFormed

theorem RuleAction.check_eq_nil_iff {path : String} {action : RuleAction} :
    action.check path = [] ↔ action.WellFormed := by
  simp only [check, BlockAction.check, List.append_eq_nil_iff, Check.exactlyOneOf_eq_nil_iff,
    toList_flatMap_eq_nil_iff, Check.range_eq_nil_iff]
  constructor
  · rintro ⟨hone, hcode⟩
    refine ⟨hone, fun block hblock response hresponse => ?_⟩
    have := hcode block hblock response hresponse
    omega
  · rintro ⟨hone, hcode⟩
    refine ⟨hone, fun block hblock response hresponse => ?_⟩
    have := hcode block hblock response hresponse
    omega

theorem RuleOverride.checkAll_eq_nil_iff {path : String} {overrides : List RuleOverride} :
    checkAll path overrides = [] ↔ ListWellFormed overrides := by
  have hitem : ∀ override ∈ overrides, ∀ path, check path override = [] ↔
      NotBlank override.name ∧ override.action.WellFormed := by
    intro override _ path
    rw [check, List.append_eq_nil_iff, Check.notBlank_eq_nil_iff, RuleAction.check_eq_nil_iff,
      NotBlank]
  simp only [checkAll, List.append_eq_nil_iff, Check.count_some_eq_nil_iff,
    Check.unique_eq_nil_iff, Path.flatMapItems_eq_nil_iff_forall hitem]
  constructor
  · rintro ⟨⟨⟨-, hsize⟩, hdistinct⟩, hitems⟩
    exact ⟨hsize, hdistinct, fun o ho => (hitems o ho).1, fun o ho => (hitems o ho).2⟩
  · rintro ⟨hsize, hdistinct, hname, haction⟩
    exact ⟨⟨⟨Nat.zero_le _, hsize⟩, hdistinct⟩, fun o ho => ⟨hname o ho, haction o ho⟩⟩

/-! ## Inspections -/

/-- One part of the request is inspected, and a part that is picked out by name
has a name of 1 to 64 characters. -/
structure FieldToMatch.WellFormed (field : FieldToMatch) : Prop where
  one : ExactlyOne [field.allQueryArguments.isSome, field.body.isSome, field.method.isSome,
    field.queryString.isSome, field.singleHeader.isSome, field.singleQueryArgument.isSome,
    field.uriPath.isSome]
  header : ∀ named ∈ field.singleHeader, 1 ≤ named.name.length ∧ named.name.length ≤ 64
  argument : ∀ named ∈ field.singleQueryArgument,
    1 ≤ named.name.length ∧ named.name.length ≤ 64

/-- 1 to 10 transformations of known types with different priorities. -/
structure Transformation.ListWellFormed (transformations : List Transformation) : Prop where
  size : 1 ≤ transformations.length ∧ transformations.length ≤ 10
  distinct : (transformations.map (·.priority)).Nodup
  type : ∀ transformation ∈ transformations, transformation.type ∈ knownTypes

theorem FieldToMatch.check_eq_nil_iff {path : String} {field : FieldToMatch} :
    field.check path = [] ↔ field.WellFormed := by
  simp only [check, checkNamed, List.append_eq_nil_iff, Check.exactlyOneOf_eq_nil_iff,
    toList_flatMap_eq_nil_iff, Check.length_eq_nil_iff]
  constructor
  · rintro ⟨⟨hone, hheader⟩, hargument⟩
    exact ⟨hone, hheader, hargument⟩
  · rintro ⟨hone, hheader, hargument⟩
    exact ⟨⟨hone, hheader⟩, hargument⟩

/-- Numbers of 32 bits are written differently. -/
theorem toString_uint32_injective {m n : UInt32} (h : toString m = toString n) : m = n := by
  have hdigits : Nat.toDigits 10 m.toNat = Nat.toDigits 10 n.toNat := String.ofList_injective h
  have hvalue := congrArg (Nat.ofDigitChars 10 · 0) hdigits
  simp only [Nat.ofDigitChars_ten_toDigits] at hvalue
  exact UInt32.toNat_inj.mp hvalue

theorem Transformation.checkAll_eq_nil_iff {path : String}
    {transformations : List Transformation} :
    checkAll path transformations = [] ↔ ListWellFormed transformations := by
  have hdistinct : (transformations.map fun t : Transformation => toString t.priority).Nodup ↔
      (transformations.map (·.priority)).Nodup := by
    -- priorities are compared as they are written
    have hinjective : Function.Injective fun n : UInt32 => toString n :=
      fun _ _ => toString_uint32_injective
    rw [← List.nodup_map_iff hinjective, List.map_map]
    rfl
  have htype : ∀ t ∈ transformations, ∀ path : String,
      Check.oneOf s!"{path}.type" t.type knownTypes = [] ↔ t.type ∈ knownTypes := by
    intro t _ path
    exact Check.oneOf_eq_nil_iff
  simp only [checkAll, List.append_eq_nil_iff, Check.count_some_eq_nil_iff,
    Check.unique_eq_nil_iff, hdistinct, Path.flatMapItems_eq_nil_iff_forall htype]
  constructor
  · rintro ⟨⟨hsize, hnodup⟩, htypes⟩
    exact ⟨hsize, hnodup, htypes⟩
  · rintro ⟨hsize, hnodup, htypes⟩
    exact ⟨⟨hsize, hnodup⟩, htypes⟩

/-! ## Kinds without inner statements -/

structure ByteMatch.WellFormed (s : ByteMatch) : Prop where
  searchString : 1 ≤ s.searchString.length ∧ s.searchString.length ≤ 200
  positionalConstraint : s.positionalConstraint ∈
    ["EXACTLY", "STARTS_WITH", "ENDS_WITH", "CONTAINS", "CONTAINS_WORD"]
  fieldToMatch : s.fieldToMatch.WellFormed
  transformations : Transformation.ListWellFormed s.transformations

/-- Different codes of two capital letters, at least one. -/
structure GeoMatch.WellFormed (s : GeoMatch) : Prop where
  some : 1 ≤ s.countryCodes.length
  distinct : s.countryCodes.Nodup
  code : ∀ code ∈ s.countryCodes, code.length = 2 ∧ ∀ c ∈ code.toList, c.isUpper = true

structure SizeConstraint.WellFormed (s : SizeConstraint) : Prop where
  comparisonOperator : s.comparisonOperator ∈ ["EQ", "NE", "LE", "LT", "GE", "GT"]
  size : s.size.toNat ≤ 21474836480
  fieldToMatch : s.fieldToMatch.WellFormed
  transformations : Transformation.ListWellFormed s.transformations

structure AttackMatch.WellFormed (s : AttackMatch) : Prop where
  fieldToMatch : s.fieldToMatch.WellFormed
  transformations : Transformation.ListWellFormed s.transformations

structure PatternSetReference.WellFormed (s : PatternSetReference) : Prop where
  arn : RefersToArn s.arn
  fieldToMatch : s.fieldToMatch.WellFormed
  transformations : Transformation.ListWellFormed s.transformations

structure LabelMatch.WellFormed (s : LabelMatch) : Prop where
  scope : s.scope ∈ ["LABEL", "NAMESPACE"]
  key : 1 ≤ s.key.length ∧ s.key.length ≤ 1024

structure RuleGroupReference.WellFormed (s : RuleGroupReference) : Prop where
  arn : RefersToArn s.arn
  overrides : RuleOverride.ListWellFormed s.overrides

theorem ByteMatch.check_eq_nil_iff {path : String} {s : ByteMatch} :
    s.check path = [] ↔ s.WellFormed := by
  simp only [check, List.append_eq_nil_iff, Check.length_eq_nil_iff, Check.oneOf_eq_nil_iff,
    FieldToMatch.check_eq_nil_iff, Transformation.checkAll_eq_nil_iff]
  constructor
  · rintro ⟨⟨⟨hsearch, hposition⟩, hfield⟩, hlist⟩
    exact ⟨hsearch, hposition, hfield, hlist⟩
  · rintro ⟨hsearch, hposition, hfield, hlist⟩
    exact ⟨⟨⟨hsearch, hposition⟩, hfield⟩, hlist⟩

theorem accepts_countryPattern_iff {code : String} :
    countryPattern.accepts code = true ↔ code.length = 2 ∧ ∀ c ∈ code.toList, c.isUpper = true := by
  have hconsistent : countryPattern.Consistent := by simp [countryPattern]
  rw [Pattern.accepts_iff hconsistent, countryPattern, Pattern.matches_times_set,
    String.length_toList]
  simp only [Pattern.Within, CharSet.contains_upper]

theorem GeoMatch.check_eq_nil_iff {path : String} {s : GeoMatch} :
    s.check path = [] ↔ s.WellFormed := by
  have hcode : ∀ code ∈ s.countryCodes, ∀ path,
      Check.format path code countryPattern "an ISO 3166 alpha-2 country code" = [] ↔
        code.length = 2 ∧ ∀ c ∈ code.toList, c.isUpper = true := by
    intro code _ path
    rw [Check.format_eq_nil_iff, accepts_countryPattern_iff]
  simp only [check, List.append_eq_nil_iff, Check.count_none_eq_nil_iff,
    Check.unique_eq_nil_iff, Path.flatMapItems_eq_nil_iff_forall hcode]
  constructor
  · rintro ⟨⟨hsome, hdistinct⟩, hcodes⟩
    exact ⟨hsome, hdistinct, hcodes⟩
  · rintro ⟨hsome, hdistinct, hcodes⟩
    exact ⟨⟨hsome, hdistinct⟩, hcodes⟩

theorem IpSetReference.check_eq_nil_iff {path : String} {s : IpSetReference} :
    s.check path = [] ↔ RefersToArn s.arn :=
  checkArn_eq_nil_iff

theorem SizeConstraint.check_eq_nil_iff {path : String} {s : SizeConstraint} :
    s.check path = [] ↔ s.WellFormed := by
  simp only [check, List.append_eq_nil_iff, Check.oneOf_eq_nil_iff, Check.range_eq_nil_iff,
    FieldToMatch.check_eq_nil_iff, Transformation.checkAll_eq_nil_iff]
  constructor
  · rintro ⟨⟨⟨hoperator, -, hsize⟩, hfield⟩, hlist⟩
    exact ⟨hoperator, by omega, hfield, hlist⟩
  · rintro ⟨hoperator, hsize, hfield, hlist⟩
    exact ⟨⟨⟨hoperator, by omega, by omega⟩, hfield⟩, hlist⟩

theorem AttackMatch.check_eq_nil_iff {path : String} {s : AttackMatch} :
    s.check path = [] ↔ s.WellFormed := by
  rw [check, List.append_eq_nil_iff, FieldToMatch.check_eq_nil_iff,
    Transformation.checkAll_eq_nil_iff]
  constructor
  · rintro ⟨hfield, hlist⟩
    exact ⟨hfield, hlist⟩
  · rintro ⟨hfield, hlist⟩
    exact ⟨hfield, hlist⟩

theorem PatternSetReference.check_eq_nil_iff {path : String} {s : PatternSetReference} :
    s.check path = [] ↔ s.WellFormed := by
  simp only [check, List.append_eq_nil_iff, checkArn_eq_nil_iff, FieldToMatch.check_eq_nil_iff,
    Transformation.checkAll_eq_nil_iff]
  constructor
  · rintro ⟨⟨harn, hfield⟩, hlist⟩
    exact ⟨harn, hfield, hlist⟩
  · rintro ⟨harn, hfield, hlist⟩
    exact ⟨⟨harn, hfield⟩, hlist⟩

theorem LabelMatch.check_eq_nil_iff {path : String} {s : LabelMatch} :
    s.check path = [] ↔ s.WellFormed := by
  rw [check, List.append_eq_nil_iff, Check.oneOf_eq_nil_iff, Check.length_eq_nil_iff]
  constructor
  · rintro ⟨hscope, hkey⟩
    exact ⟨hscope, hkey⟩
  · rintro ⟨hscope, hkey⟩
    exact ⟨hscope, hkey⟩

theorem RuleGroupReference.check_eq_nil_iff {path : String} {s : RuleGroupReference} :
    s.check path = [] ↔ s.WellFormed := by
  rw [check, List.append_eq_nil_iff, checkArn_eq_nil_iff, RuleOverride.checkAll_eq_nil_iff]
  constructor
  · rintro ⟨harn, hlist⟩
    exact ⟨harn, hlist⟩
  · rintro ⟨harn, hlist⟩
    exact ⟨harn, hlist⟩

/-! ## The parts of a check -/

/-- A statement passes the checks of its parts, given those of its inner
statements. -/
structure StatementBody.Passes (body : StatementBody StatementCheck) (path : String)
    (nesting : Nesting) : Prop where
  kind : body.checkKind path nesting = []
  byteMatch : ∀ s ∈ body.byteMatch, s.check (Path.field path "byte_match_statement") = []
  geoMatch : ∀ s ∈ body.geoMatch, s.check (Path.field path "geo_match_statement") = []
  ipSet : ∀ s ∈ body.ipSet, s.check (Path.field path "ip_set_reference_statement") = []
  managedGroup : ∀ s ∈ body.managedGroup,
    s.check (Path.field path "managed_rule_group_statement") = []
  rateBased : ∀ s ∈ body.rateBased, s.check (Path.field path "rate_based_statement") = []
  conjunction : ∀ s ∈ body.conjunction, s.check (Path.field path "and_statement") = []
  disjunction : ∀ s ∈ body.disjunction, s.check (Path.field path "or_statement") = []
  negation : ∀ s ∈ body.negation, s.check (Path.field path "not_statement") = []
  sizeConstraint : ∀ s ∈ body.sizeConstraint,
    s.check (Path.field path "size_constraint_statement") = []
  sqlInjection : ∀ s ∈ body.sqlInjection, s.check (Path.field path "sqli_match_statement") = []
  crossSiteScripting : ∀ s ∈ body.crossSiteScripting,
    s.check (Path.field path "xss_match_statement") = []
  patternSet : ∀ s ∈ body.patternSet,
    s.check (Path.field path "regex_pattern_set_reference_statement") = []
  label : ∀ s ∈ body.label, s.check (Path.field path "label_match_statement") = []
  ruleGroup : ∀ s ∈ body.ruleGroup,
    s.check (Path.field path "rule_group_reference_statement") = []

theorem StatementBody.check_eq_nil_iff_passes {body : StatementBody StatementCheck}
    {path : String} {nesting : Nesting} :
    body.check path nesting = [] ↔ body.Passes path nesting := by
  simp only [check, List.append_eq_nil_iff, toList_flatMap_eq_nil_iff, and_assoc]
  constructor
  · rintro ⟨h₁, h₂, h₃, h₄, h₅, h₆, h₇, h₈, h₉, h₁₀, h₁₁, h₁₂, h₁₃, h₁₄, h₁₅⟩
    exact ⟨h₁, h₂, h₃, h₄, h₅, h₆, h₇, h₈, h₉, h₁₀, h₁₁, h₁₂, h₁₃, h₁₄, h₁₅⟩
  · rintro ⟨h₁, h₂, h₃, h₄, h₅, h₆, h₇, h₈, h₉, h₁₀, h₁₁, h₁₂, h₁₃, h₁₄, h₁₅⟩
    exact ⟨h₁, h₂, h₃, h₄, h₅, h₆, h₇, h₈, h₉, h₁₀, h₁₁, h₁₂, h₁₃, h₁₄, h₁₅⟩

/-! ## Kinds with inner statements -/

section Inner

variable {σ : Type}

structure ManagedGroup.WellFormed (s : ManagedGroup σ) : Prop where
  name : NotBlank s.name
  vendorName : NotBlank s.vendorName
  overrides : RuleOverride.ListWellFormed s.overrides

/-- A constant key needs a statement that restricts the requests. -/
structure RateBased.WellFormed (s : RateBased σ) : Prop where
  limit : 100 ≤ s.limit.toNat ∧ s.limit.toNat ≤ 2000000000
  aggregateKeyType : s.aggregateKeyType ∈ ["IP", "FORWARDED_IP", "CONSTANT"]
  evaluationWindow : ∀ window ∈ s.evaluationWindow, window ∈ [60, 120, 300, 600]
  scopeDown : s.aggregateKeyType = "CONSTANT" → ∃ inner, s.scopeDown = some inner

/-- The inner statements of a kind. -/
def Kind.children : Kind σ → List σ
  | managedGroup s => s.scopeDown.toList
  | rateBased s => s.scopeDown.toList
  | conjunction s => s.statements
  | disjunction s => s.statements
  | negation s => [s.statement]
  | _ => []

theorem Kind.children_body (kind : Kind σ) : kind.body.children = kind.children := by
  cases kind <;> simp [StatementBody.children, body, children, StatementBody.blank]

/-- What a kind must keep to where it stands, apart from its inner statements. -/
def Kind.WithinLimits (nesting : Nesting) : Kind σ → Prop
  | byteMatch s => s.WellFormed
  | geoMatch s => s.WellFormed
  | ipSet s => RefersToArn s.arn
  | managedGroup s => nesting = .top ∧ s.WellFormed
  | rateBased s => nesting = .top ∧ s.WellFormed
  | conjunction s => 2 ≤ s.statements.length
  | disjunction s => 2 ≤ s.statements.length
  | negation _ => True
  | sizeConstraint s => s.WellFormed
  | sqlInjection s => s.WellFormed
  | crossSiteScripting s => s.WellFormed
  | patternSet s => s.WellFormed
  | label s => s.WellFormed
  | ruleGroup s => nesting = .top ∧ s.WellFormed

variable {f : σ → StatementCheck} {good : σ → Prop} {path : String} {nesting : Nesting}

theorem checkScopeDown_eq_nil_iff {inner : Option σ}
    (hgood : ∀ s ∈ inner, ∀ path, f s path .nested = [] ↔ good s) :
    checkScopeDown path (inner.map f) = [] ↔ ∀ s ∈ inner, good s := by
  cases inner with
  | none => simp [checkScopeDown]
  | some s => simpa [checkScopeDown] using hgood s rfl _

theorem ManagedGroup.check_map_eq_nil_iff {s : ManagedGroup σ}
    (hgood : ∀ inner ∈ s.scopeDown, ∀ path, f inner path .nested = [] ↔ good inner) :
    (s.map f).check path = [] ↔ s.WellFormed ∧ ∀ inner ∈ s.scopeDown, good inner := by
  simp only [check, map, List.append_eq_nil_iff, Check.notBlank_eq_nil_iff,
    RuleOverride.checkAll_eq_nil_iff, checkScopeDown_eq_nil_iff hgood]
  constructor
  · rintro ⟨⟨⟨hname, hvendor⟩, hoverrides⟩, hinner⟩
    exact ⟨⟨hname, hvendor, hoverrides⟩, hinner⟩
  · rintro ⟨⟨hname, hvendor, hoverrides⟩, hinner⟩
    exact ⟨⟨⟨hname, hvendor⟩, hoverrides⟩, hinner⟩

/-- The windows are compared as they are written. -/
theorem toString_mem_windows_iff {window : UInt32} :
    toString window ∈ ["60", "120", "300", "600"] ↔ window ∈ [60, 120, 300, 600] := by
  have hwritten : ["60", "120", "300", "600"] = ([60, 120, 300, 600] : List UInt32).map toString :=
    rfl
  rw [hwritten, List.mem_map]
  constructor
  · rintro ⟨n, hn, hsame⟩
    exact toString_uint32_injective hsame ▸ hn
  · intro hwindow
    exact ⟨window, hwindow, rfl⟩

theorem RateBased.check_map_eq_nil_iff {s : RateBased σ}
    (hgood : ∀ inner ∈ s.scopeDown, ∀ path, f inner path .nested = [] ↔ good inner) :
    (s.map f).check path = [] ↔ s.WellFormed ∧ ∀ inner ∈ s.scopeDown, good inner := by
  simp only [check, map, List.append_eq_nil_iff, Check.range_eq_nil_iff, Check.oneOf_eq_nil_iff,
    Check.requires_eq_nil_iff, toList_flatMap_eq_nil_iff, toString_mem_windows_iff,
    checkScopeDown_eq_nil_iff hgood, Option.isSome_map,
    Option.isSome_iff_exists]
  constructor
  · rintro ⟨⟨⟨⟨hlimit, hkey⟩, hscope⟩, hwindow⟩, hinner⟩
    exact ⟨⟨by omega, hkey, hwindow, fun h => hscope (decide_eq_true h)⟩, hinner⟩
  · rintro ⟨⟨hlimit, hkey, hwindow, hscope⟩, hinner⟩
    exact ⟨⟨⟨⟨by omega, hkey⟩, fun h => hscope (of_decide_eq_true h)⟩, hwindow⟩, hinner⟩

theorem StatementList.check_map_eq_nil_iff {s : StatementList σ}
    (hgood : ∀ inner ∈ s.statements, ∀ path, f inner path .nested = [] ↔ good inner) :
    (s.map f).check path = [] ↔
      2 ≤ s.statements.length ∧ ∀ inner ∈ s.statements, good inner := by
  rw [check, map, List.append_eq_nil_iff, Check.count_none_eq_nil_iff, List.length_map,
    Path.flatMapItems_map, Path.flatMapItems_eq_nil_iff_forall hgood]

theorem Negation.check_map_eq_nil_iff {s : Negation σ}
    (hgood : ∀ path, f s.statement path .nested = [] ↔ good s.statement) :
    (s.map f).check path = [] ↔ good s.statement :=
  hgood _

theorem StatementBody.checkKind_eq_nil_iff {body : StatementBody σ} :
    body.checkKind path nesting = [] ↔ (∃ kind : Kind σ, kind.body = body) ∧
      (nesting = .nested → body.managedGroup = none ∧ body.ruleGroup = none ∧
        body.rateBased = none) := by
  rw [checkKind, List.append_eq_nil_iff, Check.exactlyOneOf_eq_nil_iff, List.map_map]
  -- naming the fields by their paths changes none of the flags
  change (body.presence.map (·.2)).count true = 1 ∧ _ ↔ _
  rw [count_presence_eq_one_iff]
  refine and_congr_right fun _ => ?_
  cases nesting <;> simp [topOnly]

theorem StatementBody.checkKind_map {body : StatementBody σ} :
    (body.map f).checkKind path nesting = body.checkKind path nesting := by
  rw [checkKind, checkKind, presence_map]
  simp [topOnly, map]

theorem Kind.check_map_eq_nil_iff {kind : Kind σ}
    (hgood : ∀ s ∈ kind.children, ∀ path, f s path .nested = [] ↔ good s) :
    (kind.body.map f).check path nesting = [] ↔
      kind.WithinLimits nesting ∧ ∀ s ∈ kind.children, good s := by
  have hkind : (kind.body.map f).checkKind path nesting = [] ↔
      (nesting = .nested → kind.body.managedGroup = none ∧ kind.body.ruleGroup = none ∧
        kind.body.rateBased = none) := by
    rw [StatementBody.checkKind_map, StatementBody.checkKind_eq_nil_iff]
    exact and_iff_right ⟨kind, rfl⟩
  -- only the kinds that are confined to the top ask for the nesting
  have htop : ¬nesting = .nested ↔ nesting = .top := by cases nesting <;> simp
  simp only [StatementBody.check, List.append_eq_nil_iff, hkind, toList_flatMap_eq_nil_iff]
  cases kind with
  | byteMatch | geoMatch | ipSet | sizeConstraint | sqlInjection | crossSiteScripting
  | patternSet | label =>
      simp [body, StatementBody.blank, StatementBody.map, WithinLimits, children,
        ByteMatch.check_eq_nil_iff, GeoMatch.check_eq_nil_iff, IpSetReference.check_eq_nil_iff,
        SizeConstraint.check_eq_nil_iff, AttackMatch.check_eq_nil_iff,
        PatternSetReference.check_eq_nil_iff, LabelMatch.check_eq_nil_iff]
  | ruleGroup =>
      simp [body, StatementBody.blank, StatementBody.map, WithinLimits, children, htop,
        RuleGroupReference.check_eq_nil_iff]
  | managedGroup s =>
      have hcheck : ∀ path, (s.map f).check path = [] ↔ _ := fun path =>
        ManagedGroup.check_map_eq_nil_iff fun inner h => hgood inner (Option.mem_toList.mpr h)
      simp [body, StatementBody.blank, StatementBody.map, WithinLimits, children, htop, hcheck,
        and_assoc]
  | rateBased s =>
      have hcheck : ∀ path, (s.map f).check path = [] ↔ _ := fun path =>
        RateBased.check_map_eq_nil_iff fun inner h => hgood inner (Option.mem_toList.mpr h)
      simp [body, StatementBody.blank, StatementBody.map, WithinLimits, children, htop, hcheck,
        and_assoc]
  | conjunction s | disjunction s =>
      have hcheck : ∀ path, (s.map f).check path = [] ↔ _ := fun path =>
        StatementList.check_map_eq_nil_iff hgood
      simp [body, StatementBody.blank, StatementBody.map, WithinLimits, children, hcheck]
  | negation s =>
      have hcheck : ∀ path, (s.map f).check path = [] ↔ _ := fun path =>
        Negation.check_map_eq_nil_iff (hgood s.statement (List.mem_singleton_self _))
      simp [body, StatementBody.blank, StatementBody.map, WithinLimits, children, hcheck]

/-- A statement passes its check exactly if it has one kind, keeps to the limits
of the kind, and the inner statements pass theirs. -/
theorem StatementBody.check_map_eq_nil_iff {body : StatementBody σ}
    (hgood : ∀ s ∈ body.children, ∀ path, f s path .nested = [] ↔ good s) :
    (body.map f).check path nesting = [] ↔ ∃ kind : Kind σ, kind.body = body ∧
      kind.WithinLimits nesting ∧ ∀ s ∈ kind.children, good s := by
  constructor
  · intro h
    have hkind := (check_eq_nil_iff_passes.mp h).kind
    rw [checkKind_map, checkKind_eq_nil_iff] at hkind
    -- one kind is set, so the rest of the check is that of the kind
    obtain ⟨⟨kind, rfl⟩, -⟩ := hkind
    rw [Kind.children_body] at hgood
    exact ⟨kind, rfl, (Kind.check_map_eq_nil_iff hgood).mp h⟩
  · rintro ⟨kind, rfl, h⟩
    rw [Kind.children_body] at hgood
    exact (Kind.check_map_eq_nil_iff hgood).mpr h

end Inner

/-! ## Trees -/

/-- A tree is well formed where it stands if its root has one kind and keeps to
the limits of the kind, and each inner statement is well formed inside another
one. -/
inductive WellFormed : Nesting → Statement → Prop
  | ofKind (nesting : Nesting) (kind : Kind Statement) (hlimits : kind.WithinLimits nesting)
      (hinner : ∀ s ∈ kind.children, WellFormed .nested s) :
      WellFormed nesting (.ofBody kind.body)

theorem Statement.check_ofBody (body : StatementBody Statement) :
    (ofBody body).check = (body.map check).check :=
  fold_ofBody StatementBody.check body

/-- **The check of a statement is passed by the well-formed trees and by no
others**, wherever the statement stands and at every path. -/
theorem Statement.check_eq_nil_iff_wellFormed (statement : Statement) :
    ∀ (path : String) (nesting : Nesting),
      statement.check path nesting = [] ↔ WellFormed nesting statement := by
  induction statement using Statement.induction with
  | step body ih =>
      intro path nesting
      have hinner : ∀ s ∈ body.children, ∀ path,
          s.check path .nested = [] ↔ WellFormed .nested s :=
        fun s hs path => ih s hs path .nested
      rw [check_ofBody, StatementBody.check_map_eq_nil_iff hinner]
      constructor
      · rintro ⟨kind, rfl, hlimits, hchildren⟩
        exact .ofKind nesting kind hlimits hchildren
      · intro h
        cases h with
        | ofKind _ kind hlimits hchildren => exact ⟨kind, rfl, hlimits, hchildren⟩

end InfraSynth.Aws.WebAcl

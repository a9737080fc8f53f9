import InfraSynth.Aws.WebAcl.Statement
import InfraSynth.Proofs.Check

/-!
# Trees of statements and their kinds

Two views of a statement that its checks, its capacity and its written form
have in common.

A tree is its root and the trees below it: `Statement.fold_ofBody` unfolds a
fold at the root, and `Statement.induction` proves a property of all trees from
the step at the root.

A statement in which exactly one kind is set is given by that kind alone.
`Kind` is the type of these fourteen alternatives, `Kind.body` the statement
that an alternative stands for, and `count_presence_eq_one_iff` says that the
statements with one kind are exactly these.
-/

namespace InfraSynth.Aws.WebAcl

variable {σ τ : Type}

/-! ## Inner statements -/

/-- Replace the statement inside a managed group. -/
def ManagedGroup.map (g : σ → τ) (s : ManagedGroup σ) : ManagedGroup τ :=
  ⟨s.name, s.vendorName, s.version, s.overrides, s.scopeDown.map g⟩

/-- Replace the statement inside a rate limit. -/
def RateBased.map (g : σ → τ) (s : RateBased σ) : RateBased τ :=
  ⟨s.limit, s.aggregateKeyType, s.evaluationWindow, s.scopeDown.map g⟩

/-- Replace the statements that are combined. -/
def StatementList.map (g : σ → τ) (s : StatementList σ) : StatementList τ :=
  ⟨s.statements.map g⟩

/-- Replace the statement that is negated. -/
def Negation.map (g : σ → τ) (s : Negation σ) : Negation τ :=
  ⟨g s.statement⟩

/-- Replace the inner statements of a statement. -/
def StatementBody.map (g : σ → τ) (s : StatementBody σ) : StatementBody τ where
  byteMatch := s.byteMatch
  geoMatch := s.geoMatch
  ipSet := s.ipSet
  managedGroup := s.managedGroup.map (.map g)
  rateBased := s.rateBased.map (.map g)
  conjunction := s.conjunction.map (.map g)
  disjunction := s.disjunction.map (.map g)
  negation := s.negation.map (.map g)
  sizeConstraint := s.sizeConstraint
  sqlInjection := s.sqlInjection
  crossSiteScripting := s.crossSiteScripting
  patternSet := s.patternSet
  label := s.label
  ruleGroup := s.ruleGroup

theorem StatementBody.presence_map (g : σ → τ) (s : StatementBody σ) :
    (s.map g).presence = s.presence := by
  simp [presence, map]

theorem StatementBody.children_map (g : σ → τ) (s : StatementBody σ) :
    (s.map g).children = s.children.map g := by
  simp [children, map, ManagedGroup.map, RateBased.map, StatementList.map, Negation.map,
    Option.toList_map, List.flatMap_map, List.map_flatMap]

/-! ## Trees -/

namespace Statement

section Fold

variable {β : Type} (f : StatementBody β → β)

theorem foldOption_eq (s : Option Statement) : foldOption f s = s.map (fold f) := by
  cases s <;> rfl

theorem foldItems_eq (statements : List Statement) :
    foldItems f statements = statements.map (fold f) := by
  induction statements with
  | nil => rfl
  | cons s rest ih => simp [foldItems, ih]

theorem foldManaged_eq (s : Option (ManagedGroup Statement)) :
    foldManaged f s = s.map (.map (fold f)) := by
  cases s <;> simp [foldManaged, ManagedGroup.map, foldOption_eq]

theorem foldRate_eq (s : Option (RateBased Statement)) :
    foldRate f s = s.map (.map (fold f)) := by
  cases s <;> simp [foldRate, RateBased.map, foldOption_eq]

theorem foldList_eq (s : Option (StatementList Statement)) :
    foldList f s = s.map (.map (fold f)) := by
  cases s <;> simp [foldList, StatementList.map, foldItems_eq]

theorem foldNegation_eq (s : Option (Negation Statement)) :
    foldNegation f s = s.map (.map (fold f)) := by
  cases s <;> simp [foldNegation, Negation.map]

/-- A fold replaces the inner statements of the root and then the root. -/
theorem fold_ofBody (body : StatementBody Statement) :
    (ofBody body).fold f = f (body.map (fold f)) := by
  simp only [fold, foldManaged_eq, foldRate_eq, foldList_eq, foldNegation_eq, StatementBody.map]

end Fold

section Induction

variable {motive : Statement → Prop}

mutual

/-- What holds of a statement once it holds of the inner ones holds of all
trees. -/
theorem induction (step : ∀ body : StatementBody Statement,
    (∀ s ∈ body.children, motive s) → motive (ofBody body)) : ∀ s, motive s
  | ofBody ⟨byteMatch, geoMatch, ipSet, managedGroup, rateBased, conjunction, disjunction,
      negation, sizeConstraint, sqlInjection, crossSiteScripting, patternSet, label,
      ruleGroup⟩ => by
    refine step _ fun s hs => ?_
    simp only [StatementBody.children, List.mem_append] at hs
    rcases hs with (((hs | hs) | hs) | hs) | hs
    · exact inductionList step conjunction s hs
    · exact inductionList step disjunction s hs
    · exact inductionNegation step negation s hs
    · exact inductionRate step rateBased s hs
    · exact inductionManaged step managedGroup s hs
  termination_by structural s => s

private theorem inductionManaged (step : ∀ body : StatementBody Statement,
    (∀ s ∈ body.children, motive s) → motive (ofBody body)) :
    ∀ group : Option (ManagedGroup Statement),
      ∀ s ∈ group.toList.flatMap (·.scopeDown.toList), motive s
  | none => by simp
  | some ⟨_, _, _, _, scopeDown⟩ => by simpa using inductionOption step scopeDown
  termination_by structural group => group

private theorem inductionRate (step : ∀ body : StatementBody Statement,
    (∀ s ∈ body.children, motive s) → motive (ofBody body)) :
    ∀ rate : Option (RateBased Statement),
      ∀ s ∈ rate.toList.flatMap (·.scopeDown.toList), motive s
  | none => by simp
  | some ⟨_, _, _, scopeDown⟩ => by simpa using inductionOption step scopeDown
  termination_by structural rate => rate

private theorem inductionList (step : ∀ body : StatementBody Statement,
    (∀ s ∈ body.children, motive s) → motive (ofBody body)) :
    ∀ list : Option (StatementList Statement), ∀ s ∈ list.toList.flatMap (·.statements), motive s
  | none => by simp
  | some ⟨statements⟩ => by simpa using inductionItems step statements
  termination_by structural list => list

private theorem inductionNegation (step : ∀ body : StatementBody Statement,
    (∀ s ∈ body.children, motive s) → motive (ofBody body)) :
    ∀ negation : Option (Negation Statement), ∀ s ∈ negation.toList.map (·.statement), motive s
  | none => by simp
  | some ⟨inner⟩ => by simpa using induction step inner
  termination_by structural negation => negation

private theorem inductionOption (step : ∀ body : StatementBody Statement,
    (∀ s ∈ body.children, motive s) → motive (ofBody body)) :
    ∀ statement : Option Statement, ∀ s ∈ statement.toList, motive s
  | none => by simp
  | some inner => by simpa using induction step inner
  termination_by structural statement => statement

private theorem inductionItems (step : ∀ body : StatementBody Statement,
    (∀ s ∈ body.children, motive s) → motive (ofBody body)) :
    ∀ statements : List Statement, ∀ s ∈ statements, motive s
  | [] => by simp
  | first :: rest => by
    have hfirst := induction step first
    have hrest := inductionItems step rest
    simpa using ⟨hfirst, hrest⟩
  termination_by structural statements => statements

end

end Induction

end Statement

/-! ## Kinds -/

/-- A statement of one kind. -/
inductive Kind (σ : Type)
  | byteMatch (s : ByteMatch)
  | geoMatch (s : GeoMatch)
  | ipSet (s : IpSetReference)
  | managedGroup (s : ManagedGroup σ)
  | rateBased (s : RateBased σ)
  | conjunction (s : StatementList σ)
  | disjunction (s : StatementList σ)
  | negation (s : Negation σ)
  | sizeConstraint (s : SizeConstraint)
  | sqlInjection (s : AttackMatch)
  | crossSiteScripting (s : AttackMatch)
  | patternSet (s : PatternSetReference)
  | label (s : LabelMatch)
  | ruleGroup (s : RuleGroupReference)

/-- A statement in which no kind is set. -/
def StatementBody.blank : StatementBody σ :=
  ⟨none, none, none, none, none, none, none, none, none, none, none, none, none, none⟩

/-- The statement in which this kind is set and no other one. -/
def Kind.body : Kind σ → StatementBody σ
  | byteMatch s => { StatementBody.blank with byteMatch := s }
  | geoMatch s => { StatementBody.blank with geoMatch := s }
  | ipSet s => { StatementBody.blank with ipSet := s }
  | managedGroup s => { StatementBody.blank with managedGroup := s }
  | rateBased s => { StatementBody.blank with rateBased := s }
  | conjunction s => { StatementBody.blank with conjunction := s }
  | disjunction s => { StatementBody.blank with disjunction := s }
  | negation s => { StatementBody.blank with negation := s }
  | sizeConstraint s => { StatementBody.blank with sizeConstraint := s }
  | sqlInjection s => { StatementBody.blank with sqlInjection := s }
  | crossSiteScripting s => { StatementBody.blank with crossSiteScripting := s }
  | patternSet s => { StatementBody.blank with patternSet := s }
  | label s => { StatementBody.blank with label := s }
  | ruleGroup s => { StatementBody.blank with ruleGroup := s }

/-- The statements in which exactly one kind is set are those that a kind
stands for. -/
theorem count_presence_eq_one_iff {body : StatementBody σ} :
    (body.presence.map (·.2)).count true = 1 ↔ ∃ kind : Kind σ, kind.body = body := by
  constructor
  · intro h
    obtain ⟨byteMatch, geoMatch, ipSet, managedGroup, rateBased, conjunction, disjunction,
      negation, sizeConstraint, sqlInjection, crossSiteScripting, patternSet, label,
      ruleGroup⟩ := body
    simp only [StatementBody.presence, List.map_cons, List.map_nil, Check.count_true_cons_eq_one,
      List.forall_mem_cons, List.count_nil, Option.isSome_iff_exists, Option.isSome_eq_false_iff, 
      Option.isNone_iff_eq_none, Nat.zero_ne_one, and_false, or_false] at h
    -- the first kind that is set leaves the others out
    rcases h with ⟨⟨s, rfl⟩, h⟩ | ⟨rfl, h⟩
    · exact ⟨.byteMatch s, by simp [Kind.body, StatementBody.blank, h]⟩
    rcases h with ⟨⟨s, rfl⟩, h⟩ | ⟨rfl, h⟩
    · exact ⟨.geoMatch s, by simp [Kind.body, StatementBody.blank, h]⟩
    rcases h with ⟨⟨s, rfl⟩, h⟩ | ⟨rfl, h⟩
    · exact ⟨.ipSet s, by simp [Kind.body, StatementBody.blank, h]⟩
    rcases h with ⟨⟨s, rfl⟩, h⟩ | ⟨rfl, h⟩
    · exact ⟨.managedGroup s, by simp [Kind.body, StatementBody.blank, h]⟩
    rcases h with ⟨⟨s, rfl⟩, h⟩ | ⟨rfl, h⟩
    · exact ⟨.rateBased s, by simp [Kind.body, StatementBody.blank, h]⟩
    rcases h with ⟨⟨s, rfl⟩, h⟩ | ⟨rfl, h⟩
    · exact ⟨.conjunction s, by simp [Kind.body, StatementBody.blank, h]⟩
    rcases h with ⟨⟨s, rfl⟩, h⟩ | ⟨rfl, h⟩
    · exact ⟨.disjunction s, by simp [Kind.body, StatementBody.blank, h]⟩
    rcases h with ⟨⟨s, rfl⟩, h⟩ | ⟨rfl, h⟩
    · exact ⟨.negation s, by simp [Kind.body, StatementBody.blank, h]⟩
    rcases h with ⟨⟨s, rfl⟩, h⟩ | ⟨rfl, h⟩
    · exact ⟨.sizeConstraint s, by simp [Kind.body, StatementBody.blank, h]⟩
    rcases h with ⟨⟨s, rfl⟩, h⟩ | ⟨rfl, h⟩
    · exact ⟨.sqlInjection s, by simp [Kind.body, StatementBody.blank, h]⟩
    rcases h with ⟨⟨s, rfl⟩, h⟩ | ⟨rfl, h⟩
    · exact ⟨.crossSiteScripting s, by simp [Kind.body, StatementBody.blank, h]⟩
    rcases h with ⟨⟨s, rfl⟩, h⟩ | ⟨rfl, h⟩
    · exact ⟨.patternSet s, by simp [Kind.body, StatementBody.blank, h]⟩
    rcases h with ⟨⟨s, rfl⟩, h⟩ | ⟨rfl, h⟩
    · exact ⟨.label s, by simp [Kind.body, StatementBody.blank, h]⟩
    obtain ⟨⟨s, rfl⟩, -⟩ := h
    exact ⟨.ruleGroup s, rfl⟩
  · rintro ⟨kind, rfl⟩
    cases kind <;> rfl

end InfraSynth.Aws.WebAcl

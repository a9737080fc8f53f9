import InfraSynth.Proofs.Aws.Statement.WellFormed
import InfraSynth.Proofs.Decode.Faithful

/-!
# Statements read back

A tree of statements that passes its check reads back from what is written for
it.  The check is needed because a list that has to be given is not written if it
is empty, and it is the check that rules out such lists.

## Strategy

Each kind reads back given that its lists are not empty.  For trees two
inductions meet: reading has to go at least as deep as the written value, which
every inner statement makes deeper than itself (`depth_write_lt`), and a check
that is passed has been passed by every inner statement (`check_of_mem_children`).
-/

namespace InfraSynth.Aws.WebAcl

/-! ## What statements inspect -/

theorem EmptyBlock.faithful {block : EmptyBlock} : EmptyBlock.record.codec.Faithful block :=
  .record (by decide) rfl .nil

theorem NamedField.faithful {field : NamedField} : NamedField.record.codec.Faithful field := by
  refine .record (by decide) rfl ?_
  repeat refine .cons (by simp) ?_
  exact .nil

theorem FieldToMatch.faithful {field : FieldToMatch} :
    FieldToMatch.record.codec.Faithful field := by
  refine .record (by decide) rfl ?_
  repeat refine .cons (by simp [EmptyBlock.faithful, NamedField.faithful]) ?_
  exact .nil

theorem Transformation.faithful {transformation : Transformation} :
    Transformation.record.codec.Faithful transformation := by
  refine .record (by decide) rfl ?_
  repeat refine .cons (by simp) ?_
  exact .nil

theorem Transformation.ListWellFormed.ne_nil {transformations : List Transformation}
    (h : ListWellFormed transformations) : transformations ≠ [] := by
  rintro rfl
  exact absurd h.size.1 (by decide)

/-! ## Actions -/

theorem CustomResponse.faithful {response : CustomResponse} :
    CustomResponse.record.codec.Faithful response := by
  refine .record (by decide) rfl ?_
  repeat refine .cons (by simp) ?_
  exact .nil

theorem BlockAction.faithful {action : BlockAction} : BlockAction.record.codec.Faithful action := by
  refine .record (by decide) rfl ?_
  repeat refine .cons (by simp [CustomResponse.faithful]) ?_
  exact .nil

theorem RuleAction.faithful {action : RuleAction} : RuleAction.record.codec.Faithful action := by
  refine .record (by decide) rfl ?_
  repeat refine .cons (by simp [EmptyBlock.faithful, BlockAction.faithful]) ?_
  exact .nil

theorem RuleOverride.faithful {override : RuleOverride} :
    RuleOverride.record.codec.Faithful override := by
  refine .record (by decide) rfl ?_
  repeat refine .cons (by simp [RuleAction.faithful]) ?_
  exact .nil

/-! ## Kinds -/

theorem ByteMatch.faithful {s :
    ByteMatch} (h : s.WellFormed) : ByteMatch.record.codec.Faithful s := by
  have htransformations : s.transformations ≠ [] := h.transformations.ne_nil
  refine .record (by decide) rfl ?_
  repeat refine .cons (by simp [htransformations, FieldToMatch.faithful,
    Transformation.faithful]) ?_
  exact .nil

theorem GeoMatch.faithful {s : GeoMatch} (h : s.WellFormed) : GeoMatch.record.codec.Faithful s := by
  have hcodes : s.countryCodes ≠ [] := List.length_pos_iff.mp h.some
  refine .record (by decide) rfl ?_
  repeat refine .cons (by simp [hcodes]) ?_
  exact .nil

theorem IpSetReference.faithful {s : IpSetReference} : IpSetReference.record.codec.Faithful s := by
  refine .record (by decide) rfl ?_
  repeat refine .cons (by simp) ?_
  exact .nil

theorem SizeConstraint.faithful {s : SizeConstraint} (h : s.WellFormed) :
    SizeConstraint.record.codec.Faithful s := by
  have htransformations : s.transformations ≠ [] := h.transformations.ne_nil
  refine .record (by decide) rfl ?_
  repeat refine .cons (by simp [htransformations, FieldToMatch.faithful,
    Transformation.faithful]) ?_
  exact .nil

theorem AttackMatch.faithful {s : AttackMatch} (h : s.WellFormed) :
    AttackMatch.record.codec.Faithful s := by
  have htransformations : s.transformations ≠ [] := h.transformations.ne_nil
  refine .record (by decide) rfl ?_
  repeat refine .cons (by simp [htransformations, FieldToMatch.faithful,
    Transformation.faithful]) ?_
  exact .nil

theorem PatternSetReference.faithful {s : PatternSetReference} (h : s.WellFormed) :
    PatternSetReference.record.codec.Faithful s := by
  have htransformations : s.transformations ≠ [] := h.transformations.ne_nil
  refine .record (by decide) rfl ?_
  repeat refine .cons (by simp [htransformations, FieldToMatch.faithful,
    Transformation.faithful]) ?_
  exact .nil

theorem LabelMatch.faithful {s : LabelMatch} : LabelMatch.record.codec.Faithful s := by
  refine .record (by decide) rfl ?_
  repeat refine .cons (by simp) ?_
  exact .nil

theorem RuleGroupReference.faithful {s : RuleGroupReference} :
    RuleGroupReference.record.codec.Faithful s := by
  refine .record (by decide) rfl ?_
  repeat refine .cons (by simp [RuleOverride.faithful]) ?_
  exact .nil

section Inner

variable {σ : Type} {inner : JsonCodec σ}

/-! The names of the fields do not depend on what the inner statements are. -/

theorem ManagedGroup.faithful {s : ManagedGroup σ} (h : ∀ t ∈ s.scopeDown, inner.Faithful t) :
    (ManagedGroup.record inner).codec.Faithful s := by
  have hnames : (ManagedGroup.record inner).fields.names.Nodup :=
    show (ManagedGroup.record (.text : JsonCodec String)).fields.names.Nodup by decide
  have hscope : (Field.optional "scope_down_statement" inner).Faithful s.scopeDown := .optional h
  refine .record hnames rfl ?_
  repeat refine .cons (by simp [hscope, RuleOverride.faithful]) ?_
  exact .nil

theorem RateBased.faithful {s : RateBased σ} (h : ∀ t ∈ s.scopeDown, inner.Faithful t) :
    (RateBased.record inner).codec.Faithful s := by
  have hnames : (RateBased.record inner).fields.names.Nodup :=
    show (RateBased.record (.text : JsonCodec String)).fields.names.Nodup by decide
  have hscope : (Field.optional "scope_down_statement" inner).Faithful s.scopeDown := .optional h
  refine .record hnames rfl ?_
  repeat refine .cons (by simp [hscope]) ?_
  exact .nil

theorem StatementList.faithful {s : StatementList σ} (hne : s.statements ≠ [])
    (h : ∀ t ∈ s.statements, inner.Faithful t) : (StatementList.record inner).codec.Faithful s := by
  have hnames : (StatementList.record inner).fields.names.Nodup :=
    show (StatementList.record (.text : JsonCodec String)).fields.names.Nodup by decide
  have hstatements : (Field.requiredList "statement" inner).Faithful s.statements :=
    .requiredList hne h
  refine .record hnames rfl ?_
  exact .cons hstatements .nil

theorem Negation.faithful {s : Negation σ} (h : inner.Faithful s.statement) :
    (Negation.record inner).codec.Faithful s := by
  have hnames : (Negation.record inner).fields.names.Nodup :=
    show (Negation.record (.text : JsonCodec String)).fields.names.Nodup by decide
  have hstatement : (Field.required "statement" inner).Faithful s.statement := .required h
  refine .record hnames rfl ?_
  exact .cons hstatement .nil

end Inner

/-! ## One statement -/

namespace StatementBody

variable {σ : Type} {inner : JsonCodec σ} {body : StatementBody σ} {f : σ → StatementCheck}
  {path : String} {nesting : Nesting}

/-! What nests statements reads back if the inner statements do, each of the five kinds. -/

section Children

variable (hinner : ∀ t ∈ body.children, inner.Faithful t)

include hinner

private theorem faithful_managedGroup : (Field.optionalLast "managed_rule_group_statement"
    (ManagedGroup.record inner).codec).Faithful body.managedGroup := by
  refine .optionalLast fun s hs => ManagedGroup.faithful fun t ht => hinner t ?_
  rw [Option.mem_def] at hs
  simp [children, hs, Option.mem_def.mp ht]

private theorem faithful_rateBased : (Field.optionalLast "rate_based_statement"
    (RateBased.record inner).codec).Faithful body.rateBased := by
  refine .optionalLast fun s hs => RateBased.faithful fun t ht => hinner t ?_
  rw [Option.mem_def] at hs
  simp [children, hs, Option.mem_def.mp ht]

private theorem faithful_conjunction (hne : ∀ s ∈ body.conjunction, s.statements ≠ []) :
    (Field.optionalLast "and_statement" (StatementList.record inner).codec).Faithful
      body.conjunction := by
  refine .optionalLast fun s hs => StatementList.faithful (hne s hs) fun t ht => hinner t ?_
  rw [Option.mem_def] at hs
  simp [children, hs, ht]

private theorem faithful_disjunction (hne : ∀ s ∈ body.disjunction, s.statements ≠ []) :
    (Field.optionalLast "or_statement" (StatementList.record inner).codec).Faithful
      body.disjunction := by
  refine .optionalLast fun s hs => StatementList.faithful (hne s hs) fun t ht => hinner t ?_
  rw [Option.mem_def] at hs
  simp [children, hs, ht]

private theorem faithful_negation : (Field.optionalLast "not_statement"
    (Negation.record inner).codec).Faithful body.negation := by
  refine .optionalLast fun s hs => Negation.faithful (hinner _ ?_)
  rw [Option.mem_def] at hs
  simp [children, hs]

end Children

/-- A list of statements that passes its check is not empty. -/
private theorem ne_nil_of_check {s : StatementList σ} (h : (s.map f).check path = []) :
    s.statements ≠ [] := by
  intro hempty
  simp [StatementList.check, StatementList.map, hempty] at h

/-- A statement that passes its check reads back if the inner statements do. -/
theorem faithful (hcheck : (body.map f).check path nesting = [])
    (hinner : ∀ t ∈ body.children, inner.Faithful t) :
    (StatementBody.record inner).codec.Faithful body := by
  have hpasses := check_eq_nil_iff_passes.mp hcheck
  -- the lists that these kinds have to be given are not empty, as the check says
  have hbyte : (Field.optionalLast "byte_match_statement" ByteMatch.record.codec).Faithful
      body.byteMatch := .optionalLast fun s hs =>
    ByteMatch.faithful (ByteMatch.check_eq_nil_iff.mp (hpasses.byteMatch s hs))
  have hgeo : (Field.optionalLast "geo_match_statement" GeoMatch.record.codec).Faithful
      body.geoMatch := .optionalLast fun s hs =>
    GeoMatch.faithful (GeoMatch.check_eq_nil_iff.mp (hpasses.geoMatch s hs))
  have hsize : (Field.optionalLast "size_constraint_statement" SizeConstraint.record.codec).Faithful
      body.sizeConstraint := .optionalLast fun s hs =>
    SizeConstraint.faithful (SizeConstraint.check_eq_nil_iff.mp (hpasses.sizeConstraint s hs))
  have hsqli : (Field.optionalLast "sqli_match_statement" AttackMatch.record.codec).Faithful
      body.sqlInjection := .optionalLast fun s hs =>
    AttackMatch.faithful (AttackMatch.check_eq_nil_iff.mp (hpasses.sqlInjection s hs))
  have hxss : (Field.optionalLast "xss_match_statement" AttackMatch.record.codec).Faithful
      body.crossSiteScripting := .optionalLast fun s hs =>
    AttackMatch.faithful (AttackMatch.check_eq_nil_iff.mp (hpasses.crossSiteScripting s hs))
  have hregex : (Field.optionalLast "regex_pattern_set_reference_statement"
      PatternSetReference.record.codec).Faithful body.patternSet := .optionalLast fun s hs =>
    PatternSetReference.faithful (PatternSetReference.check_eq_nil_iff.mp (hpasses.patternSet s hs))
  have hand : (Field.optionalLast "and_statement" (StatementList.record inner).codec).Faithful
      body.conjunction := faithful_conjunction hinner fun s hs =>
    ne_nil_of_check (hpasses.conjunction _ (Option.mem_map_of_mem _ hs))
  have hor : (Field.optionalLast "or_statement" (StatementList.record inner).codec).Faithful
      body.disjunction := faithful_disjunction hinner fun s hs =>
    ne_nil_of_check (hpasses.disjunction _ (Option.mem_map_of_mem _ hs))
  have hnames : (StatementBody.record inner).fields.names.Nodup :=
    show (StatementBody.record (.text : JsonCodec String)).fields.names.Nodup by decide
  refine .record hnames rfl ?_
  repeat refine .cons (by simp [hbyte, hgeo, hsize, hsqli, hxss, hregex, hand, hor,
    faithful_managedGroup hinner, faithful_rateBased hinner, faithful_negation hinner,
    IpSetReference.faithful, LabelMatch.faithful, RuleGroupReference.faithful]) ?_
  exact .nil

private theorem check_of_checkScopeDown {scopeDown : Option σ} {t : σ}
    (h : checkScopeDown path (scopeDown.map f) = []) (ht : t ∈ scopeDown) :
    ∃ path, f t path .nested = [] := by
  rw [Option.mem_def] at ht
  subst ht
  exact ⟨Path.field path "scope_down_statement", by simpa [checkScopeDown] using h⟩

private theorem check_of_checkList {s : StatementList σ} {t : σ}
    (h : (s.map f).check path = []) (ht : t ∈ s.statements) : ∃ path, f t path .nested = [] := by
  simp only [StatementList.check, StatementList.map, List.append_eq_nil_iff, Path.flatMapItems_map,
    Path.flatMapItems_eq_nil_iff] at h
  obtain ⟨i, hi, rfl⟩ := List.mem_iff_getElem.mp ht
  exact ⟨_, h.2 i hi⟩

/-- A check that is passed has been passed by every inner statement, as one that
stands inside another. -/
theorem check_of_mem_children (hcheck : (body.map f).check path nesting = []) {t : σ}
    (ht : t ∈ body.children) : ∃ path, f t path .nested = [] := by
  have hpasses := check_eq_nil_iff_passes.mp hcheck
  simp only [children, List.mem_append, List.mem_flatMap, List.mem_map, Option.mem_toList] at ht
  rcases ht with (((⟨s, hs, ht⟩ | ⟨s, hs, ht⟩) | ⟨s, hs, rfl⟩) | ⟨s, hs, ht⟩) | ⟨s, hs, ht⟩
  · exact check_of_checkList (hpasses.conjunction _ (Option.mem_map_of_mem _ hs)) ht
  · exact check_of_checkList (hpasses.disjunction _ (Option.mem_map_of_mem _ hs)) ht
  · exact ⟨_, hpasses.negation _ (Option.mem_map_of_mem _ hs)⟩
  · have h := hpasses.rateBased _ (Option.mem_map_of_mem _ hs)
    rw [RateBased.check, List.append_eq_nil_iff] at h
    exact check_of_checkScopeDown h.2 ht
  · have h := hpasses.managedGroup _ (Option.mem_map_of_mem _ hs)
    rw [ManagedGroup.check, List.append_eq_nil_iff] at h
    exact check_of_checkScopeDown h.2 ht

end StatementBody

/-! ## Depth -/

section Depth

variable {σ : Type} {inner : JsonCodec σ}

open Fields (mem_write_first mem_write_later)

private theorem depth_lt_scopeDown_managed {s : ManagedGroup σ} {t : σ} (ht : t ∈ s.scopeDown) :
    (inner.write t).depth < ((ManagedGroup.record inner).write s).depth := by
  have hwrite : s.scopeDown.map inner.write = some (inner.write t) :=
    Option.map_eq_some_iff.mpr ⟨t, ht, rfl⟩
  have hentry : ("scope_down_statement", inner.write t) ∈
      (ManagedGroup.record inner).entries s := by
    repeat first | exact mem_write_first hwrite | refine mem_write_later ?_
  exact Record.depth_lt_of_mem_entries hentry

private theorem depth_lt_scopeDown_rate {s : RateBased σ} {t : σ} (ht : t ∈ s.scopeDown) :
    (inner.write t).depth < ((RateBased.record inner).write s).depth := by
  have hwrite : s.scopeDown.map inner.write = some (inner.write t) :=
    Option.map_eq_some_iff.mpr ⟨t, ht, rfl⟩
  have hentry : ("scope_down_statement", inner.write t) ∈ (RateBased.record inner).entries s := by
    repeat first | exact mem_write_first hwrite | refine mem_write_later ?_
  exact Record.depth_lt_of_mem_entries hentry

private theorem depth_lt_list {s : StatementList σ} {t : σ} (ht : t ∈ s.statements) :
    (inner.write t).depth < ((StatementList.record inner).write s).depth := by
  have hitem : inner.write t ∈ s.statements.map inner.write := List.mem_map_of_mem ht
  have hwrite : (Field.requiredList "statement" inner).write s.statements =
      some (.array (s.statements.map inner.write)) :=
    if_neg (by simpa using List.ne_nil_of_mem ht)
  have hentry : ("statement", Json.array (s.statements.map inner.write)) ∈
      (StatementList.record inner).entries s := mem_write_first hwrite
  have hle := Json.depth_le_depthItems hitem
  calc (inner.write t).depth
      < (Json.array (s.statements.map inner.write)).depth := by
        rw [Json.depth]
        omega
    _ < ((StatementList.record inner).write s).depth := Record.depth_lt_of_mem_entries hentry

private theorem depth_lt_negation {s : Negation σ} :
    (inner.write s.statement).depth < ((Negation.record inner).write s).depth := by
  have hentry : ("statement", inner.write s.statement) ∈ (Negation.record inner).entries s :=
    mem_write_first rfl
  exact Record.depth_lt_of_mem_entries hentry

/-- What is written for an inner statement is less deep than the statement. -/
theorem depth_write_lt (inner : JsonCodec σ) {body : StatementBody σ} {t : σ}
    (ht : t ∈ body.children) :
    (inner.write t).depth < ((StatementBody.record inner).write body).depth := by
  -- what is written for a kind is among the entries of the statement
  have hkind : ∀ {name : String} {json : Json},
      (name, json) ∈ (StatementBody.record inner).entries body →
        json.depth < ((StatementBody.record inner).write body).depth :=
    Record.depth_lt_of_mem_entries
  simp only [StatementBody.children, List.mem_append, List.mem_flatMap, List.mem_map,
    Option.mem_toList] at ht
  rcases ht with (((⟨s, hs, ht⟩ | ⟨s, hs, ht⟩) | ⟨s, hs, rfl⟩) | ⟨s, hs, ht⟩) | ⟨s, hs, ht⟩
  · have hentry : ("and_statement", (StatementList.record inner).write s) ∈
        (StatementBody.record inner).entries body := by
      repeat first | exact mem_write_first (congrArg (Option.map _) hs) | refine mem_write_later ?_
    exact Nat.lt_trans (depth_lt_list ht) (hkind hentry)
  · have hentry : ("or_statement", (StatementList.record inner).write s) ∈
        (StatementBody.record inner).entries body := by
      repeat first | exact mem_write_first (congrArg (Option.map _) hs) | refine mem_write_later ?_
    exact Nat.lt_trans (depth_lt_list ht) (hkind hentry)
  · have hentry : ("not_statement", (Negation.record inner).write s) ∈
        (StatementBody.record inner).entries body := by
      repeat first | exact mem_write_first (congrArg (Option.map _) hs) | refine mem_write_later ?_
    exact Nat.lt_trans depth_lt_negation (hkind hentry)
  · have hentry : ("rate_based_statement", (RateBased.record inner).write s) ∈
        (StatementBody.record inner).entries body := by
      repeat first | exact mem_write_first (congrArg (Option.map _) hs) | refine mem_write_later ?_
    exact Nat.lt_trans (depth_lt_scopeDown_rate ht) (hkind hentry)
  · have hentry : ("managed_rule_group_statement", (ManagedGroup.record inner).write s) ∈
        (StatementBody.record inner).entries body := by
      repeat first | exact mem_write_first (congrArg (Option.map _) hs) | refine mem_write_later ?_
    exact Nat.lt_trans (depth_lt_scopeDown_managed ht) (hkind hentry)

end Depth

/-! ## Trees -/

section Map

variable {σ : Type} {g : σ → Json} (read : Json → Except DecodeError σ)

open Fields (write_cons_congr)

private theorem managed_write_map (s : ManagedGroup σ) :
    (ManagedGroup.record ⟨.ok, id⟩).write (s.map g) = (ManagedGroup.record ⟨read, g⟩).write s := by
  cases hscope : s.scopeDown <;>
    simp [Record.write, Record.entries, ManagedGroup.record, Fields.write, Field.optional,
      ManagedGroup.map, hscope]

private theorem rate_write_map (s : RateBased σ) :
    (RateBased.record ⟨.ok, id⟩).write (s.map g) = (RateBased.record ⟨read, g⟩).write s := by
  cases hscope : s.scopeDown <;>
    simp [Record.write, Record.entries, RateBased.record, Fields.write, Field.optional,
      RateBased.map, hscope]

private theorem list_write_map (s : StatementList σ) :
    (StatementList.record ⟨.ok, id⟩).write (s.map g) =
      (StatementList.record ⟨read, g⟩).write s := by
  simp [Record.write, Record.entries, StatementList.record, Fields.write, Field.requiredList,
    Field.listed, Codec.list, StatementList.map]

private theorem negation_write_map (s : Negation σ) :
    (Negation.record ⟨.ok, id⟩).write (s.map g) = (Negation.record ⟨read, g⟩).write s :=
  rfl

private theorem map_write_map {α β : Type} {h : α → β} {before : β → Json} {after : α → Json}
    (heq : ∀ x, before (h x) = after x) (x : Option α) :
    (x.map h).map before = x.map after := by
  rw [Option.map_map]
  exact congrArg (x.map ·) (funext heq)

/-- It makes no difference whether the inner statements are written before or
with the statement. -/
theorem StatementBody.write_map (body : StatementBody σ) :
    (StatementBody.record ⟨.ok, id⟩).write (body.map g) =
      (StatementBody.record ⟨read, g⟩).write body := by
  have hmanaged := map_write_map (managed_write_map (g := g) read) body.managedGroup
  have hrate := map_write_map (rate_write_map (g := g) read) body.rateBased
  have hand := map_write_map (list_write_map (g := g) read) body.conjunction
  have hor := map_write_map (list_write_map (g := g) read) body.disjunction
  have hnot := map_write_map (negation_write_map (g := g) read) body.negation
  refine congrArg Json.object ?_
  -- the other kinds are written the same because they have no inner statements
  repeat refine write_cons_congr rfl (by first | assumption | rfl) ?_
  rfl

end Map

namespace Statement

theorem write_ofBody (body : StatementBody Statement) (read : Json → Except DecodeError Statement) :
    (ofBody body).write = (StatementBody.record ⟨read, write⟩).write body := by
  have hfold : (ofBody body).write = (StatementBody.record ⟨.ok, id⟩).write (body.map write) :=
    fold_ofBody _ body
  rw [hfold, StatementBody.write_map read body]

/-- Reading goes deep enough if it goes as deep as the written value. -/
theorem readWithin_write (statement : Statement) : ∀ {depth : Nat} {path : String}
    {nesting : Nesting}, statement.check path nesting = [] → statement.write.depth ≤ depth →
    readWithin depth statement.write = .ok statement := by
  induction statement using Statement.induction with
  | step body ih =>
      intro depth path nesting hcheck hdepth
      rw [check_ofBody] at hcheck
      -- the root takes one level, and what is written inside it is less deep
      obtain ⟨depth, rfl⟩ : ∃ n, depth = n + 1 := by
        refine ⟨depth - 1, ?_⟩
        rw [write_ofBody body read, Record.write, Json.depth] at hdepth
        omega
      have hinner : ∀ t ∈ body.children, Codec.Faithful ⟨readWithin depth, write⟩ t := by
        intro t ht
        obtain ⟨path, hpath⟩ := StatementBody.check_of_mem_children hcheck ht
        have hlt := depth_write_lt ⟨readWithin depth, write⟩ ht
        rw [← write_ofBody] at hlt
        refine ⟨ih t ht hpath (by simp only at hlt; omega), ?_⟩
        obtain ⟨inner⟩ := t
        exact fun h => Json.noConfusion ((write_ofBody inner read).symm.trans h)
      have hread := (StatementBody.faithful hcheck hinner).read_write
      rw [write_ofBody body (readWithin depth), readWithin]
      exact (congrArg (· >>= fun body => .ok (ofBody body)) hread)

/-- **A tree that passes its check reads back.** -/
theorem faithful {statement : Statement} {path : String} {nesting : Nesting}
    (hcheck : statement.check path nesting = []) : Statement.codec.Faithful statement := by
  refine ⟨readWithin_write statement hcheck (Nat.le_refl _), ?_⟩
  obtain ⟨body⟩ := statement
  exact fun h => Json.noConfusion ((write_ofBody body read).symm.trans h)

end Statement

end InfraSynth.Aws.WebAcl

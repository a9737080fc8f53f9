import InfraSynth.Proofs.Aws.Statement.Written
import InfraSynth.Proofs.Aws.WebAcl.Capacity
import InfraSynth.Proofs.Decode.Replaced

/-!
# Trees of statements that name something else

Statements name sets of addresses, sets of expressions and groups of rules by their
resource names.  A tree is rewired if one of these names, at any depth, is replaced.
What is written for the tree then differs at that position only, and if the new name
is an interpolation, the tree passes its check wherever it did before and takes the
same capacity.
-/

namespace InfraSynth.Aws.WebAcl

/-- The second tree has the resource name `new` where the first one has `old`. -/
inductive Statement.Rewired (old new : String) : Json.Position → Statement → Statement → Prop
  | ipSet (body : StatementBody Statement) :
      Rewired old new [.key "ip_set_reference_statement", .key "arn"]
        (.ofBody { body with ipSet := some ⟨old⟩ }) (.ofBody { body with ipSet := some ⟨new⟩ })
  | patternSet (body : StatementBody Statement) (s : PatternSetReference) :
      Rewired old new [.key "regex_pattern_set_reference_statement", .key "arn"]
        (.ofBody { body with patternSet := some { s with arn := old } })
        (.ofBody { body with patternSet := some { s with arn := new } })
  | ruleGroup (body : StatementBody Statement) (s : RuleGroupReference) :
      Rewired old new [.key "rule_group_reference_statement", .key "arn"]
        (.ofBody { body with ruleGroup := some { s with arn := old } })
        (.ofBody { body with ruleGroup := some { s with arn := new } })
  | conjunction {position : Json.Position} {before after : Statement}
      (body : StatementBody Statement) (front back : List Statement)
      (h : Rewired old new position before after) :
      Rewired old new
        (.key "and_statement" :: .key "statement" :: .index front.length :: position)
        (.ofBody { body with conjunction := some ⟨front ++ before :: back⟩ })
        (.ofBody { body with conjunction := some ⟨front ++ after :: back⟩ })
  | disjunction {position : Json.Position} {before after : Statement}
      (body : StatementBody Statement) (front back : List Statement)
      (h : Rewired old new position before after) :
      Rewired old new
        (.key "or_statement" :: .key "statement" :: .index front.length :: position)
        (.ofBody { body with disjunction := some ⟨front ++ before :: back⟩ })
        (.ofBody { body with disjunction := some ⟨front ++ after :: back⟩ })
  | negation {position : Json.Position} {before after : Statement}
      (body : StatementBody Statement) (h : Rewired old new position before after) :
      Rewired old new (.key "not_statement" :: .key "statement" :: position)
        (.ofBody { body with negation := some ⟨before⟩ })
        (.ofBody { body with negation := some ⟨after⟩ })
  | rateBased {position : Json.Position} {before after : Statement}
      (body : StatementBody Statement) (s : RateBased Statement)
      (h : Rewired old new position before after) :
      Rewired old new (.key "rate_based_statement" :: .key "scope_down_statement" :: position)
        (.ofBody { body with rateBased := some { s with scopeDown := some before } })
        (.ofBody { body with rateBased := some { s with scopeDown := some after } })
  | managedGroup {position : Json.Position} {before after : Statement}
      (body : StatementBody Statement) (s : ManagedGroup Statement)
      (h : Rewired old new position before after) :
      Rewired old new
        (.key "managed_rule_group_statement" :: .key "scope_down_statement" :: position)
        (.ofBody { body with managedGroup := some { s with scopeDown := some before } })
        (.ofBody { body with managedGroup := some { s with scopeDown := some after } })

/-! ## What is written -/

section Kinds

variable {old new : String} {position : Json.Position} {before after : Statement}
  (h : Json.ReplacedAt (.string old) (.string new) position before.write after.write)

include h

private theorem StatementList.replacedAt_write (front back : List Statement) :
    Json.ReplacedAt (.string old) (.string new)
      (.key "statement" :: .index front.length :: position)
      ((StatementList.record Statement.codec).write ⟨front ++ before :: back⟩)
      ((StatementList.record Statement.codec).write ⟨front ++ after :: back⟩) := by
  have hlist : (Field.requiredList "statement" Statement.codec).ReplacedAt (.string old)
      (.string new) (.index front.length :: position) (front ++ before :: back)
      (front ++ after :: back) := .requiredList front back h
  exact Record.replacedAt_write (.here hlist)

private theorem Negation.replacedAt_write :
    Json.ReplacedAt (.string old) (.string new) (.key "statement" :: position)
      ((Negation.record Statement.codec).write ⟨before⟩)
      ((Negation.record Statement.codec).write ⟨after⟩) := by
  have hstatement : (Field.required "statement" Statement.codec).ReplacedAt (.string old)
      (.string new) position before after := .required h
  exact Record.replacedAt_write (.here hstatement)

private theorem RateBased.replacedAt_write (s : RateBased Statement) :
    Json.ReplacedAt (.string old) (.string new) (.key "scope_down_statement" :: position)
      ((RateBased.record Statement.codec).write { s with scopeDown := some before })
      ((RateBased.record Statement.codec).write { s with scopeDown := some after }) := by
  have hscope : (Field.optional "scope_down_statement" Statement.codec).ReplacedAt (.string old)
      (.string new) position (some before) (some after) := .optional h
  refine Record.replacedAt_write ?_
  repeat refine .there (by decide) ?_
  exact .here hscope

private theorem ManagedGroup.replacedAt_write (s : ManagedGroup Statement) :
    Json.ReplacedAt (.string old) (.string new) (.key "scope_down_statement" :: position)
      ((ManagedGroup.record Statement.codec).write { s with scopeDown := some before })
      ((ManagedGroup.record Statement.codec).write { s with scopeDown := some after }) := by
  have hscope : (Field.optional "scope_down_statement" Statement.codec).ReplacedAt (.string old)
      (.string new) position (some before) (some after) := .optional h
  refine Record.replacedAt_write ?_
  repeat refine .there (by decide) ?_
  exact .here hscope

end Kinds

namespace Statement

variable {old new : String} {position : Json.Position} {before after : Statement}

theorem replacedAt_write_ofBody {body other : StatementBody Statement}
    (h : (StatementBody.record codec).fields.ReplacedAt (.string old) (.string new) position
      ((StatementBody.record codec).row body) ((StatementBody.record codec).row other)) :
    Json.ReplacedAt (.string old) (.string new) position (ofBody body).write
      (ofBody other).write := by
  rw [write_ofBody body read, write_ofBody other read]
  exact Record.replacedAt_write h

/-- The kind that differs is found by its name, and so are the fields in it. -/
theorem Rewired.replacedAt_write (h : Rewired old new position before after) :
    Json.ReplacedAt (.string old) (.string new) position before.write after.write := by
  -- in each case, what is written for the kind differs, and then the kinds in front are passed
  induction h with
  | ipSet body =>
      have hkind : Json.ReplacedAt (.string old) (.string new) [.key "arn"]
          (IpSetReference.record.write ⟨old⟩) (IpSetReference.record.write ⟨new⟩) :=
        Record.replacedAt_write (.here (.required Codec.replacedAt_text))
      refine replacedAt_write_ofBody ?_
      repeat refine .there (by decide) ?_
      exact .here (.optionalLast hkind)
  | patternSet body s =>
      have hkind : Json.ReplacedAt (.string old) (.string new) [.key "arn"]
          (PatternSetReference.record.write { s with arn := old })
          (PatternSetReference.record.write { s with arn := new }) :=
        Record.replacedAt_write (.here (.required Codec.replacedAt_text))
      refine replacedAt_write_ofBody ?_
      repeat refine .there (by decide) ?_
      exact .here (.optionalLast hkind)
  | ruleGroup body s =>
      have hkind : Json.ReplacedAt (.string old) (.string new) [.key "arn"]
          (RuleGroupReference.record.write { s with arn := old })
          (RuleGroupReference.record.write { s with arn := new }) :=
        Record.replacedAt_write (.here (.required Codec.replacedAt_text))
      refine replacedAt_write_ofBody ?_
      repeat refine .there (by decide) ?_
      exact .here (.optionalLast hkind)
  | conjunction body front back _ ih | disjunction body front back _ ih =>
      have hkind := StatementList.replacedAt_write ih front back
      refine replacedAt_write_ofBody ?_
      repeat refine .there (by decide) ?_
      exact .here (.optionalLast hkind)
  | negation body _ ih =>
      have hkind := Negation.replacedAt_write ih
      refine replacedAt_write_ofBody ?_
      repeat refine .there (by decide) ?_
      exact .here (.optionalLast hkind)
  | rateBased body s _ ih =>
      have hkind := RateBased.replacedAt_write ih s
      refine replacedAt_write_ofBody ?_
      repeat refine .there (by decide) ?_
      exact .here (.optionalLast hkind)
  | managedGroup body s _ ih =>
      have hkind := ManagedGroup.replacedAt_write ih s
      refine replacedAt_write_ofBody ?_
      repeat refine .there (by decide) ?_
      exact .here (.optionalLast hkind)

end Statement

/-! ## What is checked -/

/-- One of several inner statements may be replaced by one that passes wherever it
did. -/
theorem StatementList.check_map_replace {σ : Type} {f : σ → StatementCheck} {front back : List σ}
    {x y : σ} {path : String} (hxy : ∀ path, f x path .nested = [] → f y path .nested = [])
    (h : check path (map f ⟨front ++ x :: back⟩) = []) :
    check path (map f ⟨front ++ y :: back⟩) = [] := by
  simp only [check, map, List.append_eq_nil_iff, Path.flatMapItems_map, List.length_map,
    List.length_append, List.length_cons] at h ⊢
  exact ⟨h.1, Path.flatMapItems_replace (hxy _) h.2⟩

theorem checkScopeDown_replace {x y : StatementCheck} {path : String}
    (hxy : ∀ path, x path .nested = [] → y path .nested = [])
    (h : checkScopeDown path (some x) = []) : checkScopeDown path (some y) = [] := by
  simp only [checkScopeDown, toList_flatMap_eq_nil_iff] at h ⊢
  rintro _ ⟨⟩
  exact hxy _ (h x rfl)

namespace Statement.Rewired

variable {old new : String} {position : Json.Position} {before after : Statement}

/-- A tree passes its check with an interpolation for a name wherever it did before. -/
theorem check_eq_nil (h : Rewired old new position before after)
    (hnew : Interpolation.IsReference new) {path : String} {nesting : Nesting}
    (hbefore : before.check path nesting = []) : after.check path nesting = [] := by
  have harn : ∀ field, checkArn field new = [] := fun _ => checkArn_of_isReference hnew
  -- an inner statement stands at another path, so the induction is for all paths
  induction h generalizing path nesting with
    rw [check_ofBody, StatementBody.check_eq_nil_iff_passes] at hbefore ⊢
  | ipSet =>
      refine { hbefore with ipSet := ?_ }
      rintro _ ⟨⟩
      exact harn _
  | patternSet =>
      refine { hbefore with patternSet := ?_ }
      rintro _ ⟨⟩
      have hs := hbefore.patternSet _ rfl
      simp only [PatternSetReference.check, List.append_eq_nil_iff] at hs ⊢
      exact ⟨⟨harn _, hs.1.2⟩, hs.2⟩
  | ruleGroup =>
      refine { hbefore with ruleGroup := ?_ }
      rintro _ ⟨⟩
      have hs := hbefore.ruleGroup _ rfl
      simp only [RuleGroupReference.check, List.append_eq_nil_iff] at hs ⊢
      exact ⟨harn _, hs.2⟩
  | conjunction _ front back _ ih =>
      refine { hbefore with conjunction := ?_ }
      rintro _ ⟨⟩
      exact StatementList.check_map_replace (fun _ => ih) (hbefore.conjunction _ rfl)
  | disjunction _ front back _ ih =>
      refine { hbefore with disjunction := ?_ }
      rintro _ ⟨⟩
      exact StatementList.check_map_replace (fun _ => ih) (hbefore.disjunction _ rfl)
  | negation _ _ ih =>
      refine { hbefore with negation := ?_ }
      rintro _ ⟨⟩
      exact ih (hbefore.negation _ rfl)
  | rateBased _ _ _ ih =>
      refine { hbefore with rateBased := ?_ }
      rintro _ ⟨⟩
      have hs := hbefore.rateBased _ rfl
      simp only [RateBased.check, List.append_eq_nil_iff] at hs ⊢
      exact ⟨hs.1, checkScopeDown_replace (fun _ => ih) hs.2⟩
  | managedGroup _ _ _ ih =>
      refine { hbefore with managedGroup := ?_ }
      rintro _ ⟨⟩
      have hs := hbefore.managedGroup _ rfl
      simp only [ManagedGroup.check, List.append_eq_nil_iff] at hs ⊢
      exact ⟨hs.1, checkScopeDown_replace (fun _ => ih) hs.2⟩

/-- Names play no part in the capacity. -/
theorem capacity_eq (h : Rewired old new position before after) :
    before.capacity = after.capacity := by
  induction h with
  | ipSet | patternSet | ruleGroup =>
      rw [capacity_ofBody, capacity_ofBody]
      rfl
  | conjunction _ _ _ _ ih | disjunction _ _ _ _ ih | negation _ _ ih | rateBased _ _ _ ih
  | managedGroup _ _ _ ih =>
      simp only [capacity_ofBody, StatementBody.children, Option.toList_some, List.map_append,
        List.flatMap_cons, List.map_cons, ih]
      rfl

/-- The kind stays the same. -/
theorem isRuleGroup_eq (h : Rewired old new position before after) :
    before.body.isRuleGroup = after.body.isRuleGroup := by
  cases h <;> rfl

end Statement.Rewired

end InfraSynth.Aws.WebAcl

import InfraSynth.Aws.Policy.Check
import InfraSynth.Proofs.Check
import InfraSynth.Proofs.Pattern.Shapes

/-!
# Well-formed policies

`WellFormed` says which JSON values are policies of a kind.  A value can have
any shape at any place, and the check of a document reads it through accessors
that skip what is of another shape: entries of the list of statements that are
no objects, and actions that are no texts.  `SkipsNothing` says that there is
nothing of that sort, and a document is well formed exactly if it passes its
check and nothing in it was skipped.

## Strategy

Each part of the check is read as a statement about what its accessor finds.
Where nothing is skipped the accessors find everything: `namesActions_iff` says
so for actions, and `SkipsNothing.exists_statements` for statements.
-/

namespace InfraSynth.Aws.PolicyDocument

open Pattern

/-! ## Actions -/

/-- `*`, or a service and a verb with a colon between them, where a verb may hold
`*` as well. -/
def IsAction (action : String) : Prop :=
  action = "*" ∨ ∃ service verb : List Char, action.toList = service ++ ':' :: verb ∧
    (service ≠ [] ∧ ∀ c ∈ service, c.isAlphanum = true ∨ c = '-') ∧
    (verb ≠ [] ∧ ∀ c ∈ verb, c.isAlphanum = true ∨ c = '*')

/-- A text, or a list of texts that is not empty. -/
inductive Texts : Json → List String → Prop
  | one (text : String) : Texts (.string text) [text]
  | several {texts : List String} (hne : texts ≠ []) : Texts (.strings texts) texts

theorem accepts_actionPattern_iff {action : String} :
    actionPattern.accepts action = true ↔ IsAction action := by
  have hconsistent : actionPattern.Consistent := by
    simp [actionPattern, Consistent]
  have hall : action.toList = "*".toList ↔ action = "*" := String.toList_inj
  have hcolon : ":".toList = [':'] := rfl
  rw [accepts_iff hconsistent, IsAction, ← hall]
  simp only [actionPattern, matches_alt, sequence_cons, sequence_nil, matches_cat,
    matches_atLeastOnce_set, matches_literal, matches_epsilon, hcolon, Within,
    CharSet.contains_union, CharSet.contains_alphanumeric, CharSet.contains_single]
  refine or_congr Iff.rfl ?_
  constructor
  · rintro ⟨service, -, htext, hservice, -, -, rfl, rfl, verb, -, rfl, hverb, rfl⟩
    exact ⟨service, verb, by simpa using htext, hservice, hverb⟩
  · rintro ⟨service, verb, htext, hservice, hverb⟩
    exact ⟨service, _, htext, hservice, [':'], verb, rfl, rfl, verb, [],
      (List.append_nil _).symm, hverb, rfl⟩

theorem filterMap_text?_strings {texts : List String} :
    (texts.map Json.string).filterMap Json.text? = texts := by
  rw [List.filterMap_map]
  exact List.filterMap_some

/-- Of a text, or a list of texts, every text is found. -/
theorem Texts.textOrList_eq {value : Json} {texts : List String} (h : Texts value texts) :
    textOrList (some value) = texts := by
  cases h with
  | one => rfl
  | several => exact filterMap_text?_strings

/-- The value under a key, if there is one, names actions. -/
def NamesActions (statement : Entries Json) (key : String) : Prop :=
  ∀ value ∈ Entries.get? statement key, ∃ actions, Texts value actions ∧
    ∀ action ∈ actions, IsAction action

/-- The value under a key, if there is one, has nothing but texts. -/
def HoldsTexts (statement : Entries Json) (key : String) : Prop :=
  ∀ value ∈ Entries.get? statement key, ∃ texts, Texts value texts

theorem checkActions_eq_nil_iff {path key : String} {statement : Entries Json} :
    checkActions path statement key = [] ↔
      ∀ action ∈ textOrList (Entries.get? statement key), IsAction action := by
  simp only [checkActions, List.flatMap_eq_nil_iff, Check.format_eq_nil_iff,
    accepts_actionPattern_iff]

/-- Where nothing but texts is found, every action is looked at. -/
theorem namesActions_iff {key : String} {statement : Entries Json} :
    NamesActions statement key ↔
      (∀ action ∈ textOrList (Entries.get? statement key), IsAction action) ∧
        HoldsTexts statement key := by
  rw [NamesActions, HoldsTexts]
  cases hvalue : Entries.get? statement key with
  | none => simp [textOrList]
  | some value =>
      simp only [Option.mem_some_iff, forall_eq']
      constructor
      · rintro ⟨actions, htexts, hactions⟩
        exact ⟨htexts.textOrList_eq ▸ hactions, actions, htexts⟩
      · rintro ⟨hactions, texts, htexts⟩
        exact ⟨texts, htexts, htexts.textOrList_eq ▸ hactions⟩

/-! ## Statements -/

/-- One of two keys is given, and not both. -/
def OneKey (statement : Entries Json) (key negated : String) : Prop :=
  Entries.contains statement key ≠ Entries.contains statement negated

/-- A trust policy says who may act, and an identity policy on what, but not
who. -/
def SubjectWellFormed (statement : Entries Json) : Kind → Prop
  | .trust => OneKey statement "Principal" "NotPrincipal"
  | .identity => OneKey statement "Resource" "NotResource" ∧
      Entries.get? statement "Principal" = none

/-- A statement of a policy. -/
structure StatementWellFormed (kind : Kind) (statement : Entries Json) : Prop where
  effect : ∃ effect ∈ ["Allow", "Deny"], Entries.get? statement "Effect" = some (.string effect)
  oneAction : OneKey statement "Action" "NotAction"
  action : NamesActions statement "Action"
  notAction : NamesActions statement "NotAction"
  subject : SubjectWellFormed statement kind

/-- A key that is read as a text holds that text. -/
theorem bind_text?_eq_some_iff {value : Option Json} {text : String} :
    value.bind Json.text? = some text ↔ value = some (.string text) := by
  cases value with
  | none => simp
  | some json => cases json <;> simp [Json.text?]

theorem checkText_eq_nil_iff {path key : String} {value : Option String} {allowed : List String} :
    checkText path key value allowed = [] ↔ ∃ text ∈ allowed, value = some text := by
  cases value <;> simp [checkText]

theorem checkOneKey_eq_nil_iff {path key negated : String} {statement : Entries Json} :
    checkOneKey path statement key negated = [] ↔ OneKey statement key negated := by
  rw [checkOneKey, Check.exactlyOneOf_eq_nil_iff, OneKey]
  cases Entries.contains statement key <;> cases Entries.contains statement negated <;> simp

theorem checkSubject_eq_nil_iff {path : String} {statement : Entries Json} {kind : Kind} :
    checkSubject path statement kind = [] ↔ SubjectWellFormed statement kind := by
  cases kind with
  | trust => exact checkOneKey_eq_nil_iff
  | identity =>
      simp [checkSubject, SubjectWellFormed, checkOneKey_eq_nil_iff, Entries.contains]

/-- What is demanded of a statement, where only texts are looked at as actions. -/
structure StatementChecked (kind : Kind) (statement : Entries Json) : Prop where
  effect : ∃ effect ∈ ["Allow", "Deny"], Entries.get? statement "Effect" = some (.string effect)
  oneAction : OneKey statement "Action" "NotAction"
  actions : ∀ action ∈ actionsOf statement, IsAction action
  notActions : ∀ action ∈ textOrList (Entries.get? statement "NotAction"), IsAction action
  subject : SubjectWellFormed statement kind

theorem checkStatement_eq_nil_iff {path : String} {kind : Kind} {statement : Entries Json} :
    checkStatement kind path statement = [] ↔ StatementChecked kind statement := by
  have heffect : checkText path "Effect" (effectOf statement) ["Allow", "Deny"] = [] ↔
      ∃ effect ∈ ["Allow", "Deny"], Entries.get? statement "Effect" = some (.string effect) := by
    simp only [checkText_eq_nil_iff, effectOf, bind_text?_eq_some_iff]
  simp only [checkStatement, List.append_eq_nil_iff, heffect, checkOneKey_eq_nil_iff,
    checkActions_eq_nil_iff, checkSubject_eq_nil_iff]
  constructor
  · rintro ⟨⟨⟨⟨heffect, hone⟩, haction⟩, hnot⟩, hsubject⟩
    exact ⟨heffect, hone, haction, hnot, hsubject⟩
  · rintro ⟨heffect, hone, haction, hnot, hsubject⟩
    exact ⟨⟨⟨⟨heffect, hone⟩, haction⟩, hnot⟩, hsubject⟩

/-- A statement is well formed if it passes its check and its actions are all
texts. -/
theorem statementWellFormed_iff (path : String) {kind : Kind} {statement : Entries Json} :
    StatementWellFormed kind statement ↔ checkStatement kind path statement = [] ∧
      HoldsTexts statement "Action" ∧ HoldsTexts statement "NotAction" := by
  rw [checkStatement_eq_nil_iff]
  constructor
  · rintro ⟨heffect, hone, haction, hnot, hsubject⟩
    obtain ⟨haction, htexts⟩ := namesActions_iff.mp haction
    obtain ⟨hnot, hnotTexts⟩ := namesActions_iff.mp hnot
    exact ⟨⟨heffect, hone, haction, hnot, hsubject⟩, htexts, hnotTexts⟩
  · rintro ⟨⟨heffect, hone, haction, hnot, hsubject⟩, htexts, hnotTexts⟩
    exact ⟨heffect, hone, namesActions_iff.mpr ⟨haction, htexts⟩,
      namesActions_iff.mpr ⟨hnot, hnotTexts⟩, hsubject⟩

/-! ## Documents -/

/-- One statement, or a list of statements that is not empty. -/
inductive Statements : Json → List (Entries Json) → Prop
  | one (statement : Entries Json) : Statements (.object statement) [statement]
  | several {statements : List (Entries Json)} (hne : statements ≠ []) :
      Statements (.array (statements.map .object)) statements

/-- No two statements have the same identifier. -/
def DistinctIds (statements : List (Entries Json)) : Prop :=
  statements.Pairwise fun first second => ∀ id : String,
    Entries.get? first "Sid" = some (.string id) → Entries.get? second "Sid" ≠ some (.string id)

/-- A policy of a kind. -/
structure WellFormed (kind : Kind) (policy : PolicyDocument) : Prop where
  object : ∃ entries, policy.value = .object entries
  version : ∃ version ∈ versions, policy.value.get? "Version" = some (.string version)
  statements : ∃ value statements, policy.value.get? "Statement" = some value ∧
    Statements value statements ∧ (∀ statement ∈ statements, StatementWellFormed kind statement) ∧
      DistinctIds statements

/-- All entries of a list of statements are objects, and all actions are texts. -/
structure SkipsNothing (policy : PolicyDocument) : Prop where
  objects : ∀ items, policy.value.get? "Statement" = some (.array items) →
    ∀ item ∈ items, ∃ statement, item = .object statement
  texts : ∀ statement ∈ policy.statements,
    HoldsTexts statement "Action" ∧ HoldsTexts statement "NotAction"

theorem filterMap_entries?_objects {statements : List (Entries Json)} :
    (statements.map Json.object).filterMap Json.entries? = statements := by
  rw [List.filterMap_map]
  exact List.filterMap_some

theorem exists_map_object_eq {items : List Json}
    (h : ∀ item ∈ items, ∃ statement, item = .object statement) :
    ∃ statements : List (Entries Json), statements.map Json.object = items := by
  induction items with
  | nil => exact ⟨[], rfl⟩
  | cons item rest ih =>
      obtain ⟨statement, rfl⟩ := h item (List.mem_cons_self ..)
      obtain ⟨statements, rfl⟩ := ih fun other hother => h other (List.mem_cons_of_mem _ hother)
      exact ⟨statement :: statements, rfl⟩

theorem Statements.ne_nil {value : Json} {statements : List (Entries Json)}
    (h : Statements value statements) : statements ≠ [] := by
  cases h with
  | one => exact List.cons_ne_nil _ _
  | several hne => exact hne

theorem Statements.objects {value : Json} {statements : List (Entries Json)} {items : List Json}
    (h : Statements value statements) (hvalue : value = .array items) :
    ∀ item ∈ items, ∃ statement, item = .object statement := by
  cases h with
  | one => contradiction
  | several =>
      cases hvalue
      intro item hitem
      obtain ⟨statement, -, rfl⟩ := List.mem_map.mp hitem
      exact ⟨statement, rfl⟩

variable {policy : PolicyDocument} {kind : Kind} {field : String}

/-- Of one statement, or a list of them, every statement is found. -/
theorem Statements.statements_eq {value : Json} {statements : List (Entries Json)}
    (h : Statements value statements) (hvalue : policy.value.get? "Statement" = some value) :
    policy.statements = statements := by
  rw [PolicyDocument.statements, hvalue]
  cases h with
  | one => rfl
  | several => exact filterMap_entries?_objects

/-- Statements that are found and not skipped are all there are. -/
theorem SkipsNothing.exists_statements (h : policy.SkipsNothing) (hne : policy.statements ≠ []) :
    ∃ value, policy.value.get? "Statement" = some value ∧ Statements value policy.statements := by
  unfold PolicyDocument.statements at hne ⊢
  split at hne
  · rename_i items hvalue
    obtain ⟨statements, rfl⟩ := exists_map_object_eq (h.objects items hvalue)
    rw [filterMap_entries?_objects] at hne ⊢
    exact ⟨_, hvalue, .several hne⟩
  · rename_i statement hvalue
    exact ⟨_, hvalue, .one statement⟩
  · contradiction

theorem nodup_statementIds_iff :
    policy.statementIds.Nodup ↔ DistinctIds policy.statements := by
  rw [statementIds, List.Nodup, List.pairwise_filterMap, DistinctIds]
  refine Iff.of_eq (congrArg (List.Pairwise · policy.statements) ?_)
  funext first second
  simp only [bind_text?_eq_some_iff, ne_eq, eq_iff_iff]
  constructor
  · intro h id hfirst hsecond
    exact h id hfirst id hsecond rfl
  · intro h id hfirst other hsecond heq
    exact h id hfirst (heq ▸ hsecond)

theorem check_eq_nil_iff : policy.check field kind = [] ↔
    (∃ entries, policy.value = .object entries) ∧
      (∃ version ∈ versions, policy.value.get? "Version" = some (.string version)) ∧
      policy.statements ≠ [] ∧ DistinctIds policy.statements ∧
      ∀ i (h : i < policy.statements.length),
        checkStatement kind (Path.index (Path.field field "Statement") i)
          policy.statements[i] = [] := by
  obtain ⟨value⟩ := policy
  cases value with
  | object entries =>
      simp [check, Json.entries?, checkText_eq_nil_iff, version?, bind_text?_eq_some_iff,
        nodup_statementIds_iff, Path.flatMapItems_eq_nil_iff, Nat.one_le_iff_ne_zero]
  | null | bool _ | number _ | string _ | array _ => simp [check, Json.entries?]

/-- In a document that passes its check every statement that is found does. -/
theorem statementChecked_of_check (h : policy.check field kind = []) {statement : Entries Json}
    (hmem : statement ∈ policy.statements) : StatementChecked kind statement := by
  obtain ⟨-, -, -, -, hchecks⟩ := check_eq_nil_iff.mp h
  obtain ⟨i, hi, rfl⟩ := List.mem_iff_getElem.mp hmem
  exact checkStatement_eq_nil_iff.mp (hchecks i hi)

/-- **A document is well formed exactly if it passes its check and nothing in it
was skipped**, under whatever field it stands. -/
theorem wellFormed_iff_check_eq_nil_and_skipsNothing : policy.WellFormed kind ↔
    policy.check field kind = [] ∧ policy.SkipsNothing := by
  rw [check_eq_nil_iff]
  constructor
  · rintro ⟨hobject, hversion, value, statements, hvalue, hgiven, hall, hids⟩
    obtain rfl := hgiven.statements_eq hvalue
    refine ⟨⟨hobject, hversion, hgiven.ne_nil, hids, fun i hi => ?_⟩, fun items hitems => ?_,
      fun statement h => ?_⟩
    · exact ((statementWellFormed_iff _).mp (hall _ (List.getElem_mem hi))).1
    · exact hgiven.objects (Option.some.inj (hvalue.symm.trans hitems))
    · exact ((statementWellFormed_iff field).mp (hall statement h)).2
  · rintro ⟨⟨hobject, hversion, hne, hids, hchecks⟩, hskips⟩
    obtain ⟨value, hvalue, hgiven⟩ := hskips.exists_statements hne
    refine ⟨hobject, hversion, value, policy.statements, hvalue, hgiven, fun statement h => ?_,
      hids⟩
    obtain ⟨i, hi, rfl⟩ := List.mem_iff_getElem.mp h
    exact (statementWellFormed_iff _).mpr ⟨hchecks i hi, hskips.texts _ h⟩

/-- A document in which a number stands among the statements. -/
def strayDocument : PolicyDocument where
  value := .object [
    ("Version", "2012-10-17"),
    ("Statement", .array [
      .object [("Effect", "Allow"), ("Action", "s3:GetObject"), ("Resource", "*")],
      .nat 42])]

/-- The check skips the number, and so the document passes without being well
formed. -/
theorem check_strayDocument :
    strayDocument.check "policy" .identity = [] ∧ ¬strayDocument.WellFormed .identity := by
  refine ⟨by decide +kernel, fun h => ?_⟩
  obtain ⟨value, statements, hvalue, hgiven, -⟩ := h.statements
  have hstray := hgiven.objects (Option.some.inj hvalue).symm (.nat 42)
    (List.mem_cons_of_mem _ (List.mem_cons_self ..))
  obtain ⟨statement, hstatement⟩ := hstray
  exact Json.noConfusion hstatement

end InfraSynth.Aws.PolicyDocument

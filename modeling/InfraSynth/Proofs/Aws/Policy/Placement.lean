import InfraSynth.Proofs.Aws.Policy
import InfraSynth.Proofs.Check.Path

/-!
# Where faults of statements are reported

What is wrong with a statement is reported under a path with its index, and the index is
meant to lead to the statement.  It counts the statements that the check looks at, so
entries of the list that are no objects are left out of the count:
`mem_check_under_iff` says that the cause of a violation stands as many places after the
reported one as there are such entries before it.

## Strategy

`Breaks` lists the rules that a statement can break, each with the violation for it, and
`mem_checkStatement_iff` says that the check of a statement reports these.  Whatever else
is reported of a document is not under the path of a statement, and no violation is under
the paths of two statements.
-/

namespace InfraSynth.Aws.PolicyDocument

variable {policy : PolicyDocument} {kind : Kind} {field path : String} {statement : Entries Json}
  {violation : Violation} {items : List Json} {i : Nat}

/-! ## The rules that a statement can break -/

/-- The pairs of keys of which a statement has one. -/
def keyChoices : Kind → List (String × String)
  | .trust => [("Action", "NotAction"), ("Principal", "NotPrincipal")]
  | .identity => [("Action", "NotAction"), ("Resource", "NotResource")]

/-- The effects of a statement. -/
def effects : List String :=
  ["Allow", "Deny"]

/-- A statement of a policy breaks the rule that a violation is about. -/
inductive Breaks (kind : Kind) (path : String) (statement : Entries Json) : Violation → Prop
  | noEffect (h : ∀ effect, Entries.get? statement "Effect" ≠ some (.string effect)) :
      Breaks kind path statement ⟨.required, Path.field path "Effect", "is required"⟩
  | unknownEffect {effect : String} (h : Entries.get? statement "Effect" = some (.string effect))
      (hunknown : effect ∉ effects) :
      Breaks kind path statement ⟨.enumeration, Path.field path "Effect",
        s!"'{effect}' must be one of: {Check.listed effects}"⟩
  | noKey {key negated : String} (hkeys : (key, negated) ∈ keyChoices kind)
      (h : Entries.contains statement key = false)
      (hnegated : Entries.contains statement negated = false) :
      Breaks kind path statement ⟨.exactlyOne,
        Check.listed [Path.field path key, Path.field path negated],
        "exactly one of these must be set, got: none"⟩
  | bothKeys {key negated : String} (hkeys : (key, negated) ∈ keyChoices kind)
      (h : Entries.contains statement key = true)
      (hnegated : Entries.contains statement negated = true) :
      Breaks kind path statement ⟨.exactlyOne,
        Check.listed [Path.field path key, Path.field path negated],
        s!"exactly one of these must be set, got: {Check.listed
          [Path.field path key, Path.field path negated]}"⟩
  | action {key action : String} (hkey : key ∈ ["Action", "NotAction"])
      (h : action ∈ textOrList (Entries.get? statement key)) (hform : ¬IsAction action) :
      Breaks kind path statement ⟨.format, Path.field path key,
        s!"'{action}' is not an IAM action"⟩
  | principal (hkind : kind = .identity) (h : Entries.contains statement "Principal" = true) :
      Breaks kind path statement ⟨.conditional, Path.field path "Principal",
        "is not allowed in an identity policy"⟩

theorem mem_checkText_iff {key : String} {value : Option String} {allowed : List String} :
    violation ∈ checkText path key value allowed ↔
      (value = none ∧ violation = ⟨.required, Path.field path key, "is required"⟩) ∨
      ∃ text, value = some text ∧ text ∉ allowed ∧ violation = ⟨.enumeration, Path.field path key,
        s!"'{text}' must be one of: {Check.listed allowed}"⟩ := by
  cases value with
  | none => simp [checkText, Check.required]
  | some text => simp [checkText, Check.oneOf]

theorem mem_checkOneKey_iff {key negated : String} :
    violation ∈ checkOneKey path statement key negated ↔
      (Entries.contains statement key = false ∧ Entries.contains statement negated = false ∧
        violation = ⟨.exactlyOne, Check.listed [Path.field path key, Path.field path negated],
          "exactly one of these must be set, got: none"⟩) ∨
      (Entries.contains statement key = true ∧ Entries.contains statement negated = true ∧
        violation = ⟨.exactlyOne, Check.listed [Path.field path key, Path.field path negated],
          s!"exactly one of these must be set, got: {Check.listed
            [Path.field path key, Path.field path negated]}"⟩) := by
  have hnone : "exactly one of these must be set, got: " ++ "none" =
      "exactly one of these must be set, got: none" := by decide
  unfold checkOneKey Check.exactlyOneOf
  cases Entries.contains statement key <;> cases Entries.contains statement negated <;>
    simp [Check.Group.present, Check.Group.label, Text.toString_eq, hnone]

theorem mem_checkActions_iff {key : String} : violation ∈ checkActions path statement key ↔
    ∃ action ∈ textOrList (Entries.get? statement key), ¬IsAction action ∧
      violation = ⟨.format, Path.field path key, s!"'{action}' is not an IAM action"⟩ := by
  have hmessage : ∀ action : String, Check.format (Path.field path key) action actionPattern
      "an IAM action" = Check.that (actionPattern.accepts action) .format (Path.field path key)
        s!"'{action}' is not an IAM action" := by
    intro action
    have hend : "' is not " ++ "an IAM action" = "' is not an IAM action" := by decide
    simp only [Check.format, ← hend, Text.toString_eq, String.append_assoc]
  simp only [checkActions, List.mem_flatMap, hmessage, Check.mem_that_iff,
    ← accepts_actionPattern_iff, Bool.not_eq_true]

theorem mem_checkPrincipal_iff {present : Bool} :
    violation ∈ Check.forbids path present true "in an identity policy" ↔
      present = true ∧ violation = ⟨.conditional, path, "is not allowed in an identity policy"⟩ := by
  have hmessage : "is not allowed " ++ "in an identity policy" =
      "is not allowed in an identity policy" := by decide
  simp [Check.forbids, Text.toString_eq, hmessage]

/-- What is looked at in a statement: its effect, its choices of keys, its actions, and
the principal that an identity policy may not have. -/
theorem mem_checkStatement_iff_parts : violation ∈ checkStatement kind path statement ↔
    violation ∈ checkText path "Effect" (effectOf statement) effects ∨
    (∃ keys ∈ keyChoices kind, violation ∈ checkOneKey path statement keys.1 keys.2) ∨
    (∃ key ∈ ["Action", "NotAction"], violation ∈ checkActions path statement key) ∨
    kind = .identity ∧ violation ∈ Check.forbids (Path.field path "Principal")
      (Entries.contains statement "Principal") true "in an identity policy" := by
  cases kind <;> simp [checkStatement, checkSubject, keyChoices, effects] <;> tauto

/-- The check of a statement reports the rules that the statement breaks. -/
theorem mem_checkStatement_iff :
    violation ∈ checkStatement kind path statement ↔ Breaks kind path statement violation := by
  simp only [mem_checkStatement_iff_parts, mem_checkText_iff, mem_checkOneKey_iff,
    mem_checkActions_iff, mem_checkPrincipal_iff, effectOf, bind_text?_eq_some_iff]
  constructor
  · rintro ((⟨hnone, rfl⟩ | ⟨effect, heffect, hunknown, rfl⟩) |
      ⟨⟨key, negated⟩, hkeys, ⟨hkey, hnegated, rfl⟩ | ⟨hkey, hnegated, rfl⟩⟩ |
      ⟨key, hkey, action, haction, hform, rfl⟩ | ⟨hkind, hprincipal, rfl⟩)
    · refine .noEffect fun effect heffect => ?_
      rw [bind_text?_eq_some_iff.mpr heffect] at hnone
      contradiction
    · exact .unknownEffect heffect hunknown
    · exact .noKey hkeys hkey hnegated
    · exact .bothKeys hkeys hkey hnegated
    · exact .action hkey haction hform
    · exact .principal hkind hprincipal
  · intro h
    cases h with
    | noEffect h =>
        refine .inl (.inl ⟨Option.eq_none_iff_forall_ne_some.mpr fun effect heffect => ?_, rfl⟩)
        exact h effect (bind_text?_eq_some_iff.mp heffect)
    | unknownEffect h hunknown => exact .inl (.inr ⟨_, h, hunknown, rfl⟩)
    | noKey hkeys h hnegated => exact .inr (.inl ⟨_, hkeys, .inl ⟨h, hnegated, rfl⟩⟩)
    | bothKeys hkeys h hnegated => exact .inr (.inl ⟨_, hkeys, .inr ⟨h, hnegated, rfl⟩⟩)
    | action hkey h hform => exact .inr (.inr (.inl ⟨_, hkey, _, h, hform, rfl⟩))
    | principal hkind h => exact .inr (.inr (.inr ⟨hkind, h, rfl⟩))

theorem Breaks.isUnder (h : Breaks kind path statement violation) : violation.IsUnder path := by
  cases h with
  | noKey | bothKeys => exact Path.prefix_toList_field.trans Path.prefix_toList_listed
  | noEffect | unknownEffect | action | principal => exact Path.prefix_toList_field

/-! ## What is reported of a document -/

/-- The path under which a statement is reported. -/
def statementPath (field : String) (i : Nat) : String :=
  Path.index (Path.field field "Statement") i

theorem toList_statementPath : (statementPath field i).toList =
    Path.stem field ++ ("Statement".toList ++ '[' :: (Nat.toDigits 10 i ++ [']'])) := by
  rw [statementPath, Path.toList_index, Path.toList_field, List.append_assoc]

/-- What is wrong with a document besides what is wrong with its statements. -/
def checkWhole (policy : PolicyDocument) (field : String) : List Violation :=
  checkText field "Version" policy.version? versions ++
  Check.count (Path.field field "Statement") policy.statements.length 1 none ++
  Check.unique (Path.field (Path.field field "Statement") "Sid") policy.statementIds

/-- The fields of a document that are no statements. -/
theorem exists_below_of_mem_checkWhole (h : violation ∈ policy.checkWhole field) :
    ∃ below ∈ ["Version", "Statement", "Statement.Sid"],
      violation.field.toList = Path.stem field ++ below.toList := by
  simp only [checkWhole, List.mem_append, mem_checkText_iff, Check.count, Check.unique,
    Check.mem_that_iff] at h
  rcases h with ((⟨-, rfl⟩ | ⟨-, -, -, rfl⟩) | ⟨-, rfl⟩) | ⟨-, rfl⟩
  · exact ⟨"Version", by decide, Path.toList_field⟩
  · exact ⟨"Version", by decide, Path.toList_field⟩
  · exact ⟨"Statement", by decide, Path.toList_field⟩
  · refine ⟨"Statement.Sid", by decide, ?_⟩
    have hname : "Statement".isEmpty = false := by decide
    rw [Path.toList_field, Path.stem_field hname, List.append_assoc]
    rfl

/-- Nothing else in a document is under the path of a statement. -/
theorem not_isUnder_of_mem_checkWhole (h : violation ∈ policy.checkWhole field) :
    ¬violation.IsUnder (statementPath field i) := by
  obtain ⟨below, hbelow, hfield⟩ := exists_below_of_mem_checkWhole h
  rw [Violation.IsUnder, hfield, toList_statementPath, List.prefix_append_right_inj]
  have hnames : ∀ below ∈ ["Version", "Statement", "Statement.Sid"],
      ¬"Statement[".toList <+: below.toList := by decide
  exact fun hunder => hnames below hbelow
    (List.IsPrefix.trans ⟨Nat.toDigits 10 i ++ [']'], rfl⟩ hunder)

theorem check_of_isSome (h : policy.value.entries?.isSome = true) : policy.check field kind =
    policy.checkWhole field ++
      Path.flatMapItems (Path.field field "Statement") policy.statements (checkStatement kind) := by
  have hobject : ¬policy.value.entries?.isNone = true := by
    rw [Option.isNone_iff_eq_none, ← Option.not_isSome_iff_eq_none, not_not]
    exact h
  exact if_neg hobject

/-- Under the path of a statement are reported the rules that the statement breaks. -/
theorem mem_check_iff_breaks (h : policy.value.entries?.isSome = true) :
    violation ∈ policy.check field kind ∧ violation.IsUnder (statementPath field i) ↔
      ∃ statement, policy.statements[i]? = some statement ∧
        Breaks kind (statementPath field i) statement violation := by
  simp only [check_of_isSome h, List.mem_append, Path.mem_flatMapItems_iff,
    mem_checkStatement_iff]
  constructor
  · rintro ⟨hwhole | ⟨j, statement, hget, hbreaks⟩, hunder⟩
    · exact absurd hunder (not_isUnder_of_mem_checkWhole hwhole)
    · obtain rfl := Path.eq_of_isUnder_index hbreaks.isUnder hunder
      exact ⟨statement, hget, hbreaks⟩
  · rintro ⟨statement, hget, hbreaks⟩
    exact ⟨.inr ⟨i, statement, hget, hbreaks⟩, hbreaks.isUnder⟩

/-! ## Places in the list that was given -/

/-- How many entries of a list are left out by a reading. -/
def leftOut {α β : Type} (read : α → Option β) (items : List α) : Nat :=
  items.countP fun item => (read item).isNone

section Lists

variable {α β : Type} {read : α → Option β} {result : β}

theorem length_filterMap_add_leftOut (read : α → Option β) (items : List α) :
    (items.filterMap read).length + leftOut read items = items.length := by
  rw [List.length_filterMap_eq_countP, leftOut,
    List.length_eq_countP_add_countP fun item => (read item).isSome]
  simp only [Option.not_isSome_iff_eq_none, ← Option.isNone_iff_eq_none, Bool.decide_eq_true]

/-- What is read from a list comes as many places later in the list as entries before it
are left out. -/
theorem getElem?_filterMap_eq_some_iff {items : List α} : (items.filterMap read)[i]? = some result ↔
    ∃ n item, items[n]? = some item ∧ read item = some result ∧
      n = i + leftOut read (items.take n) := by
  constructor
  · intro h
    obtain ⟨hi, hresult⟩ := List.getElem?_eq_some_iff.mp h
    -- the list is split at the entry that the result is read from
    have hparts := (List.take_append_drop i (items.filterMap read)).symm
    rw [List.drop_eq_getElem_cons hi, hresult] at hparts
    obtain ⟨front, others, hitems, hfront, hothers⟩ := List.filterMap_eq_append_iff.mp hparts
    obtain ⟨skipped, item, back, rfl, hskipped, hitem, -⟩ := List.filterMap_eq_cons_iff.mp hothers
    have hlength : ((front ++ skipped).filterMap read).length = i := by
      rw [List.filterMap_append, hfront, List.filterMap_eq_nil_iff.mpr hskipped, List.append_nil,
        List.length_take_of_le hi.le]
    rw [hitems, ← List.append_assoc]
    refine ⟨(front ++ skipped).length, item, by simp, hitem, ?_⟩
    rw [List.take_left, ← hlength, length_filterMap_add_leftOut]
  · rintro ⟨n, item, hitem, hread, hn⟩
    obtain ⟨hlt, rfl⟩ := List.getElem?_eq_some_iff.mp hitem
    have hlength : ((items.take n).filterMap read).length = i := by
      have := length_filterMap_add_leftOut read (items.take n)
      rw [List.length_take_of_le hlt.le] at this
      omega
    have hparts := List.take_append_drop n items
    rw [List.drop_eq_getElem_cons hlt] at hparts
    rw [← hparts, List.filterMap_append, List.filterMap_cons_some hread, ← hlength]
    simp

/-- Where nothing is left out of the beginning, less is left out of what is longer. -/
theorem leftOut_take_le {items : List α} {k : Nat} (n : Nat)
    (h : ∀ item ∈ items.take k, ∃ result, read item = some result) :
    leftOut read (items.take n) ≤ n - k := by
  have hread : ∀ item ∈ (items.take n).take k, ¬(read item).isNone = true := by
    intro item hmem
    rw [List.take_take, Nat.min_comm, ← List.take_take] at hmem
    obtain ⟨result, hresult⟩ := h item (List.mem_of_mem_take hmem)
    simp [hresult]
  rw [leftOut, ← List.take_append_drop k (items.take n), List.countP_append,
    List.countP_eq_zero.mpr hread, Nat.zero_add]
  refine List.countP_le_length.trans ?_
  rw [List.length_drop]
  exact Nat.sub_le_sub_right (List.length_take_le n items) k

end Lists

/-- The violation stands under the index of a statement that breaks its rule. -/
def PointsAtCause (kind : Kind) (field : String) (items : List Json) (i : Nat)
    (violation : Violation) : Prop :=
  ∃ statement, items[i]? = some (.object statement) ∧
    Breaks kind (statementPath field i) statement violation

theorem entries?_eq_some_iff {item : Json} :
    item.entries? = some statement ↔ item = .object statement := by
  cases item <;> simp [Json.entries?]

theorem isSome_entries?_of_get? {key : String} {value : Json}
    (h : policy.value.get? key = some value) : policy.value.entries?.isSome = true := by
  obtain ⟨document⟩ := policy
  cases document with
  | object entries => rfl
  | null | bool _ | number _ | string _ | array _ => contradiction

theorem mem_check_iff_exists_cause
    (hitems : policy.value.get? "Statement" = some (.array items)) :
    violation ∈ policy.check field kind ∧ violation.IsUnder (statementPath field i) ↔
      ∃ n statement, items[n]? = some (.object statement) ∧
        Breaks kind (statementPath field i) statement violation ∧
          n = i + leftOut Json.entries? (items.take n) := by
  have hstatements : policy.statements = items.filterMap Json.entries? := by
    rw [statements, hitems]
  rw [mem_check_iff_breaks (isSome_entries?_of_get? hitems), hstatements]
  simp only [getElem?_filterMap_eq_some_iff, entries?_eq_some_iff]
  constructor
  · rintro ⟨statement, ⟨n, item, hget, rfl, hn⟩, hbreaks⟩
    exact ⟨n, statement, hget, hbreaks, hn⟩
  · rintro ⟨n, statement, hget, hbreaks, hn⟩
    exact ⟨statement, ⟨n, _, hget, rfl, hn⟩, hbreaks⟩

/-- **A violation under the path of a statement is caused by one that stands as many
places later in the list as entries before it are no objects**, and every rule that a
statement breaks is reported so.  If there are only objects up to its index, then the
index is that of its cause. -/
theorem mem_check_under_iff (hitems : policy.value.get? "Statement" = some (.array items)) :
    (violation ∈ policy.check field kind ∧ violation.IsUnder (statementPath field i) ↔
      ∃ n statement, items[n]? = some (.object statement) ∧
        Breaks kind (statementPath field i) statement violation ∧
          n = i + leftOut Json.entries? (items.take n)) ∧
    ((∀ item ∈ items.take (i + 1), ∃ statement, item = .object statement) →
      violation ∈ policy.check field kind → violation.IsUnder (statementPath field i) →
        PointsAtCause kind field items i violation) := by
  refine ⟨mem_check_iff_exists_cause hitems, fun hobjects hmem hunder => ?_⟩
  obtain ⟨n, statement, hget, hbreaks, hn⟩ :=
    (mem_check_iff_exists_cause hitems).mp ⟨hmem, hunder⟩
  have hfew : leftOut Json.entries? (items.take n) ≤ n - (i + 1) := by
    refine leftOut_take_le n fun item hitem => ?_
    obtain ⟨entries, rfl⟩ := hobjects item hitem
    exact ⟨entries, rfl⟩
  obtain rfl : n = i := by omega
  exact ⟨statement, hget, hbreaks⟩

/-- A statement with an effect. -/
def statementOf (effect : String) : Entries Json :=
  [("Effect", .string effect), ("Action", "s3:GetObject"), ("Resource", "*")]

/-- A list of two entries, of which the second has an effect that is not known. -/
def beforeUnknown (first : Json) : List Json :=
  [first, .object (statementOf "Maybe")]

/-- A document with a list of statements. -/
def ofItems (items : List Json) : PolicyDocument where
  value := .object [("Version", "2012-10-17"), ("Statement", .array items)]

/-- What is said of the unknown effect where its statement is counted at an index. -/
def maybeAt (i : Nat) : Violation :=
  ⟨.enumeration, Path.field (statementPath "policy" i) "Effect",
    "'Maybe' must be one of: Allow, Deny"⟩

theorem pointsAtCause_maybeAt :
    maybeAt 1 ∈ (ofItems (beforeUnknown (.object (statementOf "Allow")))).check "policy" .identity ∧
      PointsAtCause .identity "policy" (beforeUnknown (.object (statementOf "Allow"))) 1
        (maybeAt 1) := by
  have hmem : maybeAt 1 ∈ (ofItems (beforeUnknown (.object (statementOf "Allow")))).check
      "policy" .identity := by
    decide +kernel
  have hobjects : ∀ item ∈ (beforeUnknown (.object (statementOf "Allow"))).take 2,
      ∃ statement, item = .object statement := by
    simp [beforeUnknown]
  exact ⟨hmem, (mem_check_under_iff rfl).2 hobjects hmem (by decide +kernel)⟩

/-- Behind a number, the unknown effect is reported under the index of the number. -/
theorem not_pointsAtCause_maybeAt :
    maybeAt 0 ∈ (ofItems (beforeUnknown (.nat 42))).check "policy" .identity ∧
      (maybeAt 0).IsUnder (statementPath "policy" 0) ∧
      ¬PointsAtCause .identity "policy" (beforeUnknown (.nat 42)) 0 (maybeAt 0) := by
  refine ⟨by decide +kernel, by decide +kernel, ?_⟩
  rintro ⟨statement, hget, -⟩
  exact Json.noConfusion (Option.some.inj hget)

end InfraSynth.Aws.PolicyDocument

import InfraSynth.Proofs.Aws.Policy.Wildcard

/-!
# What accepted policies grant

Two flags sum up what a policy grants: whether it only reads, and whether it allows
every action of a service.  Both are found by looking at the texts of its actions.
Here they are compared with what its statements grant, which is what their patterns
stand for, or everything besides what they exclude.

No document that passes its check has both flags, `not_isReadOnly_and_allowsWildcard`.
Each of them has one gap.  A statement that excludes actions names none, so it may be
in a document that only reads, `onlyReads_iff_of_isReadOnly`; and a wildcard is not
found if it is written with more than one star, `allowsWildcard_iff_of_check`.

## Strategy

A document that passes its check has no other actions than `*` and services with a
verb.  For these the test for a wildcard is one for patterns that sweep,
`isWildcard_iff`, and no pattern that sweeps reads.
-/

namespace InfraSynth.Aws.PolicyDocument

variable {policy : PolicyDocument} {kind : Kind} {field : String} {statement : Entries Json}
  {action : String}

/-! ## Statements -/

/-- The statement allows something. -/
def Allows (statement : Entries Json) : Prop :=
  Entries.get? statement "Effect" = some (.string "Allow")

/-- The actions that a statement excludes. -/
def exclusionsOf (statement : Entries Json) : List String :=
  textOrList (Entries.get? statement "NotAction")

/-- An action is granted if it is named, or if there are exclusions and it is not among
them. -/
def Grants (statement : Entries Json) (action : List Char) : Prop :=
  Allows statement ∧ ((∃ pattern ∈ actionsOf statement, StandsFor pattern.toList action) ∨
    Entries.contains statement "NotAction" = true ∧
      ∀ pattern ∈ exclusionsOf statement, ¬StandsFor pattern.toList action)

/-- The statement names what it is about, and all that it names reads. -/
structure OnlyReads (statement : Entries Json) : Prop where
  names : Entries.contains statement "Action" = true
  excludes : Entries.contains statement "NotAction" = false
  reads : ∀ action ∈ actionsOf statement, Reads action.toList

theorem effectOf_eq_allow_iff : effectOf statement = some "Allow" ↔ Allows statement :=
  bind_text?_eq_some_iff

namespace StatementChecked

theorem onlyReads_iff (h : StatementChecked kind statement)
    (hreads : ∀ action ∈ actionsOf statement, Reads action.toList) :
    OnlyReads statement ↔ Entries.contains statement "NotAction" = false := by
  refine ⟨OnlyReads.excludes, fun hnot => ⟨?_, hnot, hreads⟩⟩
  exact Bool.ne_false_iff.mp fun haction => h.oneAction (haction.trans hnot.symm)

/-- Exclusions that are not of everything leave actions that do not read. -/
theorem exists_grants (h : StatementChecked kind statement) (hallows : Allows statement)
    (hexcludes : Entries.contains statement "NotAction" = true)
    (hstar : "*" ∉ exclusionsOf statement) :
    ∃ action, Grants statement action ∧ ¬Reads action := by
  -- a service whose name is longer than all exclusions together
  let size := ((exclusionsOf statement).map String.toList).flatten.length
  let service := List.replicate (size + 1) 'a'
  have hservice : IsService service := by
    refine ⟨List.cons_ne_nil _ _, fun c hc => .inl ?_⟩
    rw [List.eq_of_mem_replicate hc]
    rfl
  refine ⟨service ++ [':', 'a'], ⟨hallows, .inr ⟨hexcludes, fun pattern hmem hstands => ?_⟩⟩,
    hservice.not_reads⟩
  have hle : pattern.toList.length ≤ size :=
    (List.sublist_flatten_of_mem (List.mem_map_of_mem hmem)).length_le
  rcases h.notActions pattern hmem with rfl | ⟨own, verb, htext, hown, -⟩
  · exact hstar hmem
  · rw [htext, IsService.standsFor_iff hown hservice] at hstands
    rw [htext, hstands.1, List.length_append, List.length_replicate] at hle
    omega

/-- Where every action that is named reads, more can be granted only by exclusions. -/
theorem reads_of_grants_iff (h : StatementChecked kind statement) (hallows : Allows statement)
    (hreads : ∀ action ∈ actionsOf statement, Reads action.toList) :
    (∀ action, Grants statement action → Reads action) ↔
      Entries.contains statement "NotAction" = false ∨ "*" ∈ exclusionsOf statement := by
  constructor
  · intro hall
    by_contra hnot
    obtain ⟨hexcludes, hstar⟩ := not_or.mp hnot
    obtain ⟨action, hgrants, hother⟩ :=
      h.exists_grants hallows (Bool.ne_false_iff.mp hexcludes) hstar
    exact hother (hall action hgrants)
  · rintro hnot action ⟨-, ⟨pattern, hpattern, hstands⟩ | ⟨hexcludes, hrest⟩⟩
    · exact (hreads pattern hpattern).of_standsFor (h.actions pattern hpattern) hstands
    · rcases hnot with hnone | hstar
      · exact absurd (hnone.symm.trans hexcludes) Bool.false_ne_true
      · exact absurd (standsFor_stars 0 action) (hrest "*" hstar)

end StatementChecked

/-! ## Flags -/

theorem isReadOnly_iff : policy.isReadOnly = true ↔ policy.actions ≠ [] ∧
    ∀ statement ∈ policy.statements, ∀ action ∈ actionsOf statement, Reads action.toList := by
  simp only [isReadOnly, actions, Bool.and_eq_true, Bool.not_eq_true', List.isEmpty_eq_false_iff,
    List.all_eq_true, List.mem_flatMap, isReadAction_iff]
  refine and_congr_right fun _ => ?_
  constructor
  · intro h statement hmem action haction
    exact h action ⟨statement, hmem, haction⟩
  · rintro h action ⟨statement, hmem, haction⟩
    exact h statement hmem action haction

theorem allowsWildcard_iff : policy.allowsWildcard = true ↔ ∃ statement ∈ policy.statements,
    Allows statement ∧ ∃ action ∈ actionsOf statement, isWildcard action = true := by
  simp only [allowsWildcard, List.any_eq_true, List.mem_filter, decide_eq_true_eq,
    effectOf_eq_allow_iff, and_assoc]

/-- In an action there is one colon, so what is before `:*` is the service. -/
theorem IsAction.isService_of_star {front : List Char} (h : IsAction action)
    (hfront : front ++ [':', '*'] = action.toList) : IsService front := by
  rcases h with rfl | ⟨service, verb, htext, hservice, -, hverb⟩
  · exact absurd (congrArg List.length hfront) (by simp)
  · have hstar : ':' ∉ ['*'] := by decide
    have hcolon : ':' ∉ verb := fun hmem => absurd (hverb ':' hmem) (by decide)
    have hback : ['*'] ++ ':' :: front.reverse = verb.reverse ++ ':' :: service.reverse := by
      simpa using congrArg List.reverse (hfront.trans htext)
    obtain ⟨-, hreverse⟩ := Text.append_cons_inj hstar (mt List.mem_reverse.mp hcolon) hback
    rw [List.reverse_inj.mp hreverse]
    exact hservice

/-- A pattern that sweeps is found unless it ends with more than one star. -/
theorem isWildcard_iff (h : IsAction action) : isWildcard action = true ↔
    Sweeps action.toList ∧ ¬['*', '*'] <:+ action.toList := by
  rw [sweeps_iff h, isWildcard, Bool.or_eq_true, decide_eq_true_eq, Text.endsWith,
    List.isSuffixOf_iff_suffix]
  constructor
  · rintro (rfl | ⟨front, hfront⟩)
    · exact ⟨.inl rfl, by decide⟩
    · refine ⟨.inr ⟨front, 0, h.isService_of_star hfront, hfront.symm⟩, ?_⟩
      rintro ⟨stars, hstars⟩
      exact absurd (List.append_inj' (hstars.trans hfront.symm) rfl).2 (by decide)
  · rintro ⟨rfl | ⟨service, more, hservice, htext⟩, hstars⟩
    · exact .inl rfl
    · cases more with
      | zero => exact .inr ⟨service, htext.symm⟩
      | succ more =>
          refine absurd ⟨service ++ ':' :: List.replicate more '*', ?_⟩ hstars
          rw [htext, List.replicate_succ', List.replicate_succ']
          simp

/-! ## Accepted documents -/

theorem isAction_of_check (h : policy.check field kind = []) (hmem : statement ∈ policy.statements)
    (haction : action ∈ actionsOf statement) : IsAction action :=
  (statementChecked_of_check h hmem).actions action haction

/-- **What a document that counts as one that only reads allows.**  A statement of it
names only what reads exactly if it excludes nothing.  One that allows something grants
more than reading exactly if it excludes something, and not everything. -/
theorem onlyReads_iff_of_isReadOnly (h : policy.check field kind = [])
    (hread : policy.isReadOnly = true) (hmem : statement ∈ policy.statements) :
    (OnlyReads statement ↔ Entries.contains statement "NotAction" = false) ∧
      (Allows statement → ((∀ action, Grants statement action → Reads action) ↔
        Entries.contains statement "NotAction" = false ∨ "*" ∈ exclusionsOf statement)) := by
  have hchecked := statementChecked_of_check h hmem
  have hreads := (isReadOnly_iff.mp hread).2 statement hmem
  exact ⟨hchecked.onlyReads_iff hreads,
    fun hallows => hchecked.reads_of_grants_iff hallows hreads⟩

/-- A statement that names what it allows. -/
def namingStatement : Entries Json :=
  [("Effect", "Allow"), ("Action", .strings ["s3:GetObject", "s3:List*"]), ("Resource", "*")]

/-- A statement that allows everything but one service. -/
def excludingStatement : Entries Json :=
  [("Effect", "Allow"), ("NotAction", "iam:*"), ("Resource", "*")]

/-- A document in which nothing is named but what reads. -/
def excludingPolicy : PolicyDocument where
  value := .object [
    ("Version", "2012-10-17"),
    ("Statement", .array [.object namingStatement, .object excludingStatement])]

theorem onlyReads_namingStatement : excludingPolicy.check "policy" .identity = [] ∧
    excludingPolicy.isReadOnly = true ∧ namingStatement ∈ excludingPolicy.statements ∧
      Allows namingStatement ∧ OnlyReads namingStatement ∧
        ∀ action, Grants namingStatement action → Reads action := by
  have hcheck : excludingPolicy.check "policy" .identity = [] := by decide +kernel
  have hread : excludingPolicy.isReadOnly = true := by decide +kernel
  have hmem : namingStatement ∈ excludingPolicy.statements := List.mem_cons_self ..
  obtain ⟨honly, hgrants⟩ := onlyReads_iff_of_isReadOnly hcheck hread hmem
  exact ⟨hcheck, hread, hmem, rfl, honly.mpr rfl, (hgrants rfl).mpr (.inl rfl)⟩

/-- The document counts as one that only reads, and grants all actions of all services
but one. -/
theorem isReadOnly_excludingPolicy : excludingPolicy.check "policy" .identity = [] ∧
    excludingPolicy.isReadOnly = true ∧ excludingStatement ∈ excludingPolicy.statements ∧
      Allows excludingStatement ∧ ¬OnlyReads excludingStatement ∧
        ∃ action, Grants excludingStatement action ∧ ¬Reads action := by
  have hcheck : excludingPolicy.check "policy" .identity = [] := by decide +kernel
  have hmem : excludingStatement ∈ excludingPolicy.statements :=
    List.mem_cons_of_mem _ (List.mem_cons_self ..)
  have hgrants : ∃ action, Grants excludingStatement action ∧ ¬Reads action :=
    (statementChecked_of_check hcheck hmem).exists_grants rfl rfl (by decide)
  refine ⟨hcheck, by decide +kernel, hmem, rfl, fun honly => ?_, hgrants⟩
  exact Bool.false_ne_true (honly.excludes.symm.trans rfl)

/-- **The wildcards that are found.**  Of the patterns that stand for every action, or
for every action of one service, those are found that do not end with more than one
star. -/
theorem allowsWildcard_iff_of_check (h : policy.check field kind = []) :
    policy.allowsWildcard = true ↔ ∃ statement ∈ policy.statements, Allows statement ∧
      ∃ action ∈ actionsOf statement,
        Sweeps action.toList ∧ ¬['*', '*'] <:+ action.toList := by
  rw [allowsWildcard_iff]
  constructor
  · rintro ⟨statement, hmem, hallows, action, haction, hfound⟩
    have hisAction := isAction_of_check h hmem haction
    exact ⟨statement, hmem, hallows, action, haction, (isWildcard_iff hisAction).mp hfound⟩
  · rintro ⟨statement, hmem, hallows, action, haction, hsweeps⟩
    have hisAction := isAction_of_check h hmem haction
    exact ⟨statement, hmem, hallows, action, haction, (isWildcard_iff hisAction).mpr hsweeps⟩

/-- A document with one statement, which allows the actions. -/
def ofActions (actions : List String) : PolicyDocument where
  value := .object [
    ("Version", "2012-10-17"),
    ("Statement", .object [
      ("Effect", "Allow"), ("Action", .strings actions), ("Resource", "*")])]

theorem allowsWildcard_ofActions : (ofActions ["s3:Get*", "ec2:*"]).check "policy" .identity = [] ∧
    (ofActions ["s3:Get*", "ec2:*"]).allowsWildcard = true ∧
      ∃ statement ∈ (ofActions ["s3:Get*", "ec2:*"]).statements, Allows statement ∧
        ∃ action ∈ actionsOf statement,
          Sweeps action.toList ∧ ¬['*', '*'] <:+ action.toList := by
  have hcheck : (ofActions ["s3:Get*", "ec2:*"]).check "policy" .identity = [] := by
    decide +kernel
  have hwildcard : (ofActions ["s3:Get*", "ec2:*"]).allowsWildcard = true := by decide +kernel
  exact ⟨hcheck, hwildcard, (allowsWildcard_iff_of_check hcheck).mp hwildcard⟩

/-- Two stars stand for every action of the service as one star does, and are not
found. -/
theorem allowsWildcard_twoStars : (ofActions ["s3:**"]).check "policy" .identity = [] ∧
    (∃ statement ∈ (ofActions ["s3:**"]).statements, Allows statement ∧
      ∃ action ∈ actionsOf statement, Sweeps action.toList) ∧
    (ofActions ["s3:**"]).allowsWildcard = false := by
  have hcheck : (ofActions ["s3:**"]).check "policy" .identity = [] := by decide +kernel
  refine ⟨hcheck, ⟨_, List.mem_singleton_self _, rfl, "s3:**", List.mem_singleton_self _, ?_⟩,
    by decide +kernel⟩
  have hservice : IsService ['s', '3'] := by decide
  exact .inr ⟨_, hservice, fun verb _ =>
    (hservice.standsFor_iff hservice).mpr ⟨rfl, standsFor_stars 1 verb⟩⟩

/-- **No document that passes its check counts both as one that only reads and as one
with a wildcard.** -/
theorem not_isReadOnly_and_allowsWildcard (h : policy.check field kind = []) :
    ¬(policy.isReadOnly = true ∧ policy.allowsWildcard = true) := by
  rintro ⟨hread, hwildcard⟩
  obtain ⟨statement, hmem, -, action, haction, hfound⟩ := allowsWildcard_iff.mp hwildcard
  have hisAction := isAction_of_check h hmem haction
  have hreads := (isReadOnly_iff.mp hread).2 statement hmem action haction
  obtain ⟨hsweeps, -⟩ := (isWildcard_iff hisAction).mp hfound
  exact hsweeps.not_reads hisAction hreads

theorem isReadOnly_ofActions : (ofActions ["s3:Get*", "ec2:*"]).check "policy" .identity = [] ∧
    (ofActions ["s3:Get*", "ec2:*"]).allowsWildcard = true ∧
      (ofActions ["s3:Get*", "ec2:*"]).isReadOnly = false := by
  have hcheck : (ofActions ["s3:Get*", "ec2:*"]).check "policy" .identity = [] := by
    decide +kernel
  have hwildcard : (ofActions ["s3:Get*", "ec2:*"]).allowsWildcard = true := by decide +kernel
  refine ⟨hcheck, hwildcard, Bool.eq_false_iff.mpr fun hread => ?_⟩
  exact not_isReadOnly_and_allowsWildcard hcheck ⟨hread, hwildcard⟩

/-- A document that does not pass can count as both, with a second colon. -/
example : (ofActions ["s3:Get:*"]).isReadOnly = true ∧
    (ofActions ["s3:Get:*"]).allowsWildcard = true := by
  decide +kernel

end InfraSynth.Aws.PolicyDocument

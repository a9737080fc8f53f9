import InfraSynth.Aws.IamRole
import InfraSynth.Proofs.Aws.Policy.Grants
import InfraSynth.Proofs.Resource
import Mathlib.Data.List.Flatten

/-!
# Who may assume a service role

A role counts as a service role if its trust policy names services, and neither accounts
nor identity providers.  That is what is found by looking for three keys in the principals
of its statements, and a statement can admit others in ways that are not looked at.
`admitsOnlyServices_iff_of_isServiceRole` says that a statement of an accepted service
role admits only services unless it is one of those that `Overlooked` lists, and that the
services which are allowed are all among the trusted ones, in their order.

## Strategy

An accepted statement has either a principal or a negated one.  The three keys rule out
texts, which stand for accounts, and objects that name accounts or providers; every other
shape of a principal is a case of `Overlooked`.
-/

namespace InfraSynth.Aws

open PolicyDocument

variable {statement : Entries Json} {policy : PolicyDocument} {role : IamRole}

/-! ## Statements -/

namespace PolicyDocument

/-- The principal of the statement is an object that has services and nothing else. -/
def AdmitsOnlyServices (statement : Entries Json) : Prop :=
  ∃ principals, Entries.get? statement "Principal" = some (.object principals) ∧
    ∀ key, Entries.contains principals key = true ↔ key = "Service"

/-- The statement admits others than services in a way that is not looked at. -/
inductive Overlooked (statement : Entries Json) : Prop
  /-- It admits all but some. -/
  | negated (h : Entries.contains statement "NotPrincipal" = true)
  /-- Its principal is neither a text nor an object. -/
  | shapeless {principal : Json} (h : Entries.get? statement "Principal" = some principal)
      (htext : principal.text? = none) (hobject : principal.entries? = none)
  /-- Its principal has another key, under which no account or provider is named. -/
  | otherKey {principals : Entries Json} {key : String} {value : Json}
      (h : Entries.get? statement "Principal" = some (.object principals))
      (hvalue : Entries.get? principals key = some value) (hkey : key ≠ "Service")
      (hunnamed : key ∈ ["AWS", "Federated"] → textOrList (some value) = [])
  /-- Its principal has no services. -/
  | unserved {principals : Entries Json}
      (h : Entries.get? statement "Principal" = some (.object principals))
      (hservice : Entries.contains principals "Service" = false)

/-- The services that are named by the statements that allow something. -/
def allowedServices (policy : PolicyDocument) : List String :=
  (policy.statements.filter (effectOf · = some "Allow")).flatMap (principalsOf "Service")

theorem principalsOf_of_object {principals : Entries Json} (kind : String)
    (h : Entries.get? statement "Principal" = some (.object principals)) :
    principalsOf kind statement = textOrList (Entries.get? principals kind) := by
  rw [principalsOf, h]

theorem AdmitsOnlyServices.not_overlooked (h : AdmitsOnlyServices statement)
    (hone : OneKey statement "Principal" "NotPrincipal") : ¬Overlooked statement := by
  obtain ⟨principals, hprincipal, hkeys⟩ := h
  intro hoverlooked
  cases hoverlooked with
  | negated hnegated =>
      refine hone (Eq.trans ?_ hnegated.symm)
      rw [Entries.contains, hprincipal, Option.isSome_some]
  | shapeless hother _ hobject =>
      obtain rfl := Option.some.inj (hprincipal.symm.trans hother)
      exact Option.some_ne_none principals hobject
  | otherKey hother hvalue hkey _ =>
      obtain rfl := Json.object.inj (Option.some.inj (hprincipal.symm.trans hother))
      refine hkey ((hkeys _).mp ?_)
      rw [Entries.contains, hvalue, Option.isSome_some]
  | unserved hother hservice =>
      obtain rfl := Json.object.inj (Option.some.inj (hprincipal.symm.trans hother))
      rw [(hkeys "Service").mpr rfl] at hservice
      exact Bool.noConfusion hservice

/-- A statement that is accepted and names neither accounts nor providers. -/
theorem StatementChecked.admitsOnlyServices_iff (h : StatementChecked .trust statement)
    (haccounts : principalsOf "AWS" statement = [])
    (hproviders : principalsOf "Federated" statement = []) :
    AdmitsOnlyServices statement ↔ ¬Overlooked statement := by
  refine ⟨fun honly => honly.not_overlooked h.subject, fun hnot => ?_⟩
  have hprincipal : (Entries.get? statement "Principal").isSome = true := by
    have hnegated : Entries.contains statement "NotPrincipal" = false :=
      Bool.eq_false_iff.mpr fun hnegated => hnot (.negated hnegated)
    exact Bool.ne_false_iff.mp fun hnone => h.subject (hnone.trans hnegated.symm)
  obtain ⟨principal, hprincipal⟩ := Option.isSome_iff_exists.mp hprincipal
  cases principal with
  | object principals =>
      rw [principalsOf_of_object _ hprincipal] at haccounts hproviders
      refine ⟨principals, hprincipal, fun key => ⟨fun hkey => ?_, fun hkey => ?_⟩⟩
      · obtain ⟨value, hvalue⟩ := Option.isSome_iff_exists.mp hkey
        by_contra hother
        refine hnot (.otherKey hprincipal hvalue hother fun hkind => ?_)
        rcases List.mem_pair.mp hkind with rfl | rfl
        · exact hvalue ▸ haccounts
        · exact hvalue ▸ hproviders
      · subst hkey
        exact Bool.ne_false_iff.mp fun hnone => hnot (.unserved hprincipal hnone)
  | string any =>
      rw [principalsOf, hprincipal] at haccounts
      exact absurd haccounts (List.cons_ne_nil _ _)
  | null | bool _ | number _ | array _ => exact absurd (.shapeless hprincipal rfl rfl) hnot

/-! ## Documents -/

theorem principals_eq_nil_iff {kind : String} : policy.principals kind = [] ↔
    ∀ statement ∈ policy.statements, principalsOf kind statement = [] :=
  List.flatMap_eq_nil_iff

/-- What is left out of a list makes no difference if it contributes nothing. -/
theorem flatMap_filter_eq_iff {α β : Type} {p : α → Bool} {f : α → List β} {items : List α} :
    (items.filter p).flatMap f = items.flatMap f ↔
      ∀ item ∈ items, p item = false → f item = [] := by
  induction items with
  | nil => simp
  | cons item rest ih =>
      rw [List.forall_mem_cons, ← ih, List.flatMap_cons]
      cases hitem : p item with
      | true => simp [hitem]
      | false =>
          have hfilter : (item :: rest).filter p = rest.filter p :=
            List.filter_cons_of_neg (Bool.eq_false_iff.mp hitem)
          rw [hfilter]
          constructor
          · intro heq
            have hle := ((List.filter_sublist (p := p) (l := rest)).flatMap f).length_le
            have hnil : f item = [] := by
              rw [heq, List.length_append] at hle
              exact List.length_eq_zero_iff.mp (by omega)
            rw [hnil, List.nil_append] at heq
            exact ⟨fun _ => hnil, heq⟩
          · rintro ⟨hnil, heq⟩
            rw [hnil rfl, heq, List.nil_append]

/-- The services that are allowed are among those that are named. -/
theorem allowedServices_sublist : List.Sublist policy.allowedServices policy.services :=
  List.filter_sublist.flatMap _

theorem allowedServices_eq_iff : policy.allowedServices = policy.services ↔
    ∀ statement ∈ policy.statements, ¬Allows statement →
      principalsOf "Service" statement = [] := by
  rw [allowedServices, services, principals, flatMap_filter_eq_iff]
  simp only [decide_eq_false_iff_not, effectOf_eq_allow_iff]

end PolicyDocument

/-! ## Roles -/

namespace IamRole

theorem isServiceRole_iff : role.computed.isServiceRole = true ↔
    role.trustPolicy.services ≠ [] ∧ role.trustPolicy.accounts = [] ∧
      role.trustPolicy.federations = [] := by
  rw [computed, decide_eq_true_eq, Trust.ofPolicy]
  cases role.trustPolicy.services <;> cases role.trustPolicy.accounts <;>
    cases role.trustPolicy.federations <;> simp

theorem checkTrust_of_validate (h : Resource.validate role = .ok ()) :
    role.trustPolicy.check "assume_role_policy" .trust = [] := by
  have hviolations : role.violations = [] := Resource.validate_eq_ok_iff.mp h
  rw [violations, List.append_eq_nil_iff, List.append_eq_nil_iff] at hviolations
  obtain ⟨⟨-, hpolicies⟩, -⟩ := hviolations
  simp only [checkPolicies, List.append_eq_nil_iff, and_assoc] at hpolicies
  exact hpolicies.1

/-- **Whom an accepted service role admits.**  A statement of its trust policy admits
only services exactly if it is none of those that are overlooked.  The services that
statements allow are all among the trusted ones, in their order, and they are the trusted
ones exactly if no other statement names any. -/
theorem admitsOnlyServices_iff_of_isServiceRole (hvalid : Resource.validate role = .ok ())
    (hservice : role.computed.isServiceRole = true) :
    (∀ statement ∈ role.trustPolicy.statements,
      AdmitsOnlyServices statement ↔ ¬Overlooked statement) ∧
    List.Sublist role.trustPolicy.allowedServices role.computed.trustedServices ∧
    (role.trustPolicy.allowedServices = role.computed.trustedServices ↔
      ∀ statement ∈ role.trustPolicy.statements, ¬Allows statement →
        principalsOf "Service" statement = []) := by
  obtain ⟨-, haccounts, hproviders⟩ := isServiceRole_iff.mp hservice
  refine ⟨fun statement hmem => ?_, allowedServices_sublist, allowedServices_eq_iff⟩
  have hchecked := statementChecked_of_check (checkTrust_of_validate hvalid) hmem
  exact hchecked.admitsOnlyServices_iff (principals_eq_nil_iff.mp haccounts statement hmem)
    (principals_eq_nil_iff.mp hproviders statement hmem)

/-- A statement about who may assume a role. -/
def assumeStatement (effect : String) (subject : String × Json) : Entries Json :=
  [("Effect", .string effect), subject, ("Action", "sts:AssumeRole")]

/-- A statement about a service. -/
def serviceStatement (effect service : String) : Entries Json :=
  assumeStatement effect ("Principal", .object [("Service", .string service)])

/-- A statement that denies a service. -/
def denyingStatement : Entries Json :=
  serviceStatement "Deny" "ec2.amazonaws.com"

/-- A statement that allows everyone but one user. -/
def negatedStatement : Entries Json :=
  assumeStatement "Allow"
    ("NotPrincipal", .object [("AWS", "arn:aws:iam::123456789012:user/eve")])

/-- A role with a trust policy of two statements, of which the first allows a service. -/
def lambdaRole (statement : Entries Json) : IamRole :=
  .ofTrustPolicy ⟨.object [
    ("Version", "2012-10-17"),
    ("Statement", .array [
      .object (serviceStatement "Allow" "lambda.amazonaws.com"), .object statement])]⟩

theorem admitsOnlyServices_serviceStatement (effect service : String) :
    AdmitsOnlyServices (serviceStatement effect service) := by
  refine ⟨[("Service", .string service)], rfl, fun key => ?_⟩
  rw [eq_comm (a := key)]
  by_cases hkey : "Service" = key <;> simp [Entries.contains, Entries.get?, hkey]

theorem not_overlooked_lambdaRole : Resource.validate (lambdaRole denyingStatement) = .ok () ∧
    (lambdaRole denyingStatement).computed.isServiceRole = true ∧
    (∀ statement ∈ (lambdaRole denyingStatement).trustPolicy.statements, ¬Overlooked statement) ∧
    (lambdaRole denyingStatement).trustPolicy.allowedServices ≠
      (lambdaRole denyingStatement).computed.trustedServices := by
  have hvalid : Resource.validate (lambdaRole denyingStatement) = .ok () :=
    Resource.validate_eq_ok_iff.mpr (by decide +kernel)
  have hservice : (lambdaRole denyingStatement).computed.isServiceRole = true := by
    decide +kernel
  obtain ⟨hstatements, -, hall⟩ := admitsOnlyServices_iff_of_isServiceRole hvalid hservice
  refine ⟨hvalid, hservice, fun statement hmem => (hstatements statement hmem).mp ?_,
    fun heq => ?_⟩
  · rcases List.mem_pair.mp hmem with rfl | rfl
    · exact admitsOnlyServices_serviceStatement ..
    · exact admitsOnlyServices_serviceStatement ..
  · have hdenies : ¬Allows denyingStatement := by
      rw [← effectOf_eq_allow_iff]
      decide +kernel
    have hnamed : principalsOf "Service" denyingStatement ≠ [] := List.cons_ne_nil _ _
    exact hnamed (hall.mp heq _ (List.mem_cons_of_mem _ (List.mem_cons_self ..)) hdenies)

/-- With a statement that allows everyone but one user, the role still counts as a service
role. -/
theorem isServiceRole_negated : Resource.validate (lambdaRole negatedStatement) = .ok () ∧
    (lambdaRole negatedStatement).computed.isServiceRole = true ∧
    negatedStatement ∈ (lambdaRole negatedStatement).trustPolicy.statements ∧
    Allows negatedStatement ∧ ¬AdmitsOnlyServices negatedStatement := by
  refine ⟨Resource.validate_eq_ok_iff.mpr (by decide +kernel), by decide +kernel,
    List.mem_cons_of_mem _ (List.mem_cons_self ..), rfl, ?_⟩
  rintro ⟨principals, hprincipal, -⟩
  have hnone : Entries.get? negatedStatement "Principal" = none := by decide +kernel
  exact Option.some_ne_none _ (hprincipal.symm.trans hnone)

end IamRole

end InfraSynth.Aws

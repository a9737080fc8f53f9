import InfraSynth.Proofs.Aws.TargetGroup

/-!
# Paths of health checks

A health check may have a path if it sends requests.  Whether it does is decided twice:
by the checks from the protocol of the health check, or of the group where the health
check has none, and for what is computed of a group from the protocol of the group
alone.  `supportsHealthCheckPath_iff_of_validate` says for which accepted groups with a
path the two differ: for those that pass connections on, but ask for the health of
their targets with requests.

## Strategy

An accepted group is of the class that its protocol belongs to, so what is computed is
a matter of the class, `Checked.supportsHealthCheckPath_eq_false_iff`.  Where it leaves
a path out, the check can have let it pass only for the protocol of the health check.
-/

namespace InfraSynth.Aws.TargetGroup

variable {group : TargetGroup} {check : HealthCheck}

/-- Connections are passed on, and the health check sends requests by a protocol of its
own. -/
structure AsksByRequests (group : TargetGroup) (check : HealthCheck) : Prop where
  passesOn : Class.network.Holds group ∨ Class.gateway.Holds group
  requests : check.protocol = some .http ∨ check.protocol = some .https

/-! ## What is computed -/

theorem Checked.holds_iff (h : group.Checked) {kind : Class} :
    kind.Holds group ↔ kind = Class.ofProtocol group.protocol :=
  ⟨Class.Holds.eq_ofProtocol, fun heq => heq ▸ h.holds_ofProtocol⟩

/-- Paths are left out for the classes that pass connections on. -/
theorem Checked.supportsHealthCheckPath_eq_false_iff (h : group.Checked) :
    group.computed.supportsHealthCheckPath = false ↔
      Class.network.Holds group ∨ Class.gateway.Holds group := by
  have hlambda : group.isLambda = group.protocol.isNone := by
    rw [← Option.not_isSome, h.protocol, Bool.not_not]
  have hcomputed : group.computed.supportsHealthCheckPath =
      (group.protocol.any Protocol.isHttp || group.protocol.isNone) :=
    congrArg (group.isHttp || ·) hlambda
  rw [hcomputed, h.holds_iff, h.holds_iff]
  rcases group.protocol with _ | protocol
  · decide
  · cases protocol <;> decide

/-! ## What is checked -/

theorem checksRequests_of_checkHealth (h : group.checkHealth check = [])
    (hpath : check.path.isSome = true) : group.checksRequests check = true := by
  obtain ⟨path, hpath⟩ := Option.isSome_iff_exists.mp hpath
  simp only [checkHealth, List.append_eq_nil_iff, toList_flatMap_eq_nil_iff] at h
  obtain ⟨⟨-, hpaths⟩, -⟩ := h
  have hallowed := hpaths path hpath
  simp only [checkHealthPath, List.append_eq_nil_iff, Check.forbids_eq_nil_iff] at hallowed
  simpa using hallowed.1.1

theorem checkHealth_of_validate (h : Resource.validate group = .ok ())
    (hcheck : check ∈ group.healthCheck) : group.checkHealth check = [] := by
  rw [Resource.validate_eq_ok_iff] at h
  change group.violations = [] at h
  simp only [violations, List.append_eq_nil_iff, toList_flatMap_eq_nil_iff] at h
  exact h.1.1.2 check hcheck

/-- Requests that the protocol of the group does not account for are those of the
health check. -/
theorem requests_of_checksRequests (h : group.checksRequests check = true)
    (hcomputed : group.computed.supportsHealthCheckPath = false) :
    check.protocol = some .http ∨ check.protocol = some .https := by
  obtain ⟨hhttp, hlambda⟩ : group.isHttp = false ∧ group.isLambda = false :=
    Bool.or_eq_false_iff.mp hcomputed
  rw [checksRequests, hlambda, Bool.or_false] at h
  cases hprotocol : check.protocol with
  | none =>
      rw [hprotocol, Option.none_or] at h
      exact absurd (hhttp.symm.trans h) Bool.false_ne_true
  | some protocol =>
      rw [hprotocol, Option.some_or, Option.any_some, Protocol.isHttp_iff] at h
      exact h.imp (congrArg some) (congrArg some)

/-! ## Accepted groups -/

/-- **Where the health check of an accepted group has a path, paths are supported**
unless connections are passed on and the health check sends requests by a protocol of
its own. -/
theorem supportsHealthCheckPath_iff_of_validate (h : Resource.validate group = .ok ())
    (hcheck : check ∈ group.healthCheck) (hpath : check.path.isSome = true) :
    group.computed.supportsHealthCheckPath = true ↔ ¬group.AsksByRequests check := by
  have hpassesOn := (checked_of_validate h).supportsHealthCheckPath_eq_false_iff
  have hrequests := checksRequests_of_checkHealth (checkHealth_of_validate h hcheck) hpath
  rw [← Bool.not_eq_false, not_iff_not]
  constructor
  · intro hcomputed
    exact ⟨hpassesOn.mp hcomputed, requests_of_checksRequests hrequests hcomputed⟩
  · exact fun hasks => hpassesOn.mpr hasks.passesOn

/-- A shop whose targets are asked without encryption. -/
def readyShopGroup : TargetGroup :=
  { shopGroup with
    healthCheck := some { path := some "/ready", protocol := some .http } }

theorem supportsHealthCheckPath_readyShopGroup :
    Resource.validate readyShopGroup = .ok () ∧ ∃ check ∈ readyShopGroup.healthCheck,
      check.path.isSome = true ∧ readyShopGroup.computed.supportsHealthCheckPath = true ∧
        ¬readyShopGroup.AsksByRequests check := by
  have h : Resource.validate readyShopGroup = .ok () :=
    Resource.validate_eq_ok_iff.mpr (by decide +kernel)
  exact ⟨h, _, rfl, rfl, rfl, (supportsHealthCheckPath_iff_of_validate h rfl rfl).mp rfl⟩

/-- A database behind TCP whose health is asked for with requests. -/
def databaseGroup : TargetGroup :=
  { ofProtocol 5432 .tcp (Interpolation.ofResource "aws_vpc" "main" "id") with
    healthCheck := some { path := some "/health", protocol := some .http } }

/-- The path of the health check is accepted, and counts as not supported. -/
theorem supportsHealthCheckPath_databaseGroup :
    Resource.validate databaseGroup = .ok () ∧ ∃ check ∈ databaseGroup.healthCheck,
      check.path.isSome = true ∧ databaseGroup.computed.supportsHealthCheckPath = false :=
  ⟨Resource.validate_eq_ok_iff.mpr (by decide +kernel), _, rfl, rfl, rfl⟩

end InfraSynth.Aws.TargetGroup

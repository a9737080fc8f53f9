import InfraSynth.Aws.TargetGroup.Check
import InfraSynth.Proofs.Check
import InfraSynth.Proofs.Resource

/-!
# Accepted target groups

Every accepted target group is of one class, and its class says which attributes it
has: functions, groups of an application protocol, groups of a network protocol, and
groups behind a gateway.  No check knows of these classes.  They follow from what is
demanded of the attributes one by one, `classified_of_validate`.

## Strategy

`Checked` collects what the checks say of the protocol.  The class is decided by the
protocol alone, and a group has a protocol unless its targets are functions.  So each
class is found by looking at one protocol, and no group is of two classes.

## Main definitions

* `TargetGroup.Class.Holds` says what it means to be of a class.
* `TargetGroup.Classified` is what an accepted group is known to keep to.
-/

namespace InfraSynth.Aws

/-- Requests are told apart by a cookie. -/
def StickinessType.IsCookie (type : StickinessType) : Prop :=
  type = .lbCookie ∨ type = .appCookie

theorem StickinessType.isCookie_or (type : StickinessType) : type.IsCookie ∨ type = .sourceIp := by
  cases type with
  | lbCookie => exact .inl (.inl rfl)
  | appCookie => exact .inl (.inr rfl)
  | sourceIp => exact .inr rfl

theorem Protocol.isHttp_iff {protocol : Protocol} :
    protocol.isHttp = true ↔ protocol = .http ∨ protocol = .https := by
  cases protocol <;> decide

theorem Protocol.isNetwork_iff {protocol : Protocol} :
    protocol.isNetwork = true ↔ protocol ∈ [tcp, tls, udp, tcpUdp] := by
  cases protocol <;> decide

namespace TargetGroup

variable {group : TargetGroup}

/-! ## Classes -/

/-- A function, which has no address and no protocol. -/
structure IsFunction (group : TargetGroup) : Prop where
  targetType : group.targetType = .lambda
  port : group.port = none
  protocol : group.protocol = none
  vpcId : group.vpcId = none
  protocolVersion : group.protocolVersion = none
  algorithm : group.algorithm = none
  slowStart : group.slowStart = 0
  stickiness : ∀ stickiness ∈ group.stickiness, stickiness.type.IsCookie

/-- Servers that answer requests. -/
structure IsApplication (group : TargetGroup) : Prop where
  targetType : group.targetType = .instances ∨ group.targetType = .ip
  port : group.port.isSome = true
  protocol : group.protocol = some .http ∨ group.protocol = some .https
  vpcId : group.vpcId.isSome = true
  slowStart : group.slowStart = 0 ∨ 30 ≤ group.slowStart.toNat ∧ group.slowStart.toNat ≤ 900
  stickiness : ∀ stickiness ∈ group.stickiness, stickiness.type.IsCookie

/-- Servers to which connections are passed on. -/
structure IsNetwork (group : TargetGroup) : Prop where
  port : group.port.isSome = true
  protocol : ∃ protocol ∈ [Protocol.tcp, .tls, .udp, .tcpUdp], group.protocol = some protocol
  vpcId : group.vpcId.isSome = true
  protocolVersion : group.protocolVersion = none
  algorithm : group.algorithm = none
  slowStart : group.slowStart = 0
  stickiness : ∀ stickiness ∈ group.stickiness, stickiness.type = .sourceIp

/-- Appliances behind a gateway. -/
structure IsGateway (group : TargetGroup) : Prop where
  targetType : group.targetType = .instances ∨ group.targetType = .ip
  port : group.port = some 6081
  protocol : group.protocol = some .geneve
  vpcId : group.vpcId.isSome = true
  protocolVersion : group.protocolVersion = none
  algorithm : group.algorithm = none
  slowStart : group.slowStart = 0
  stickiness : group.stickiness = none

/-- The classes of target groups. -/
inductive Class
  | function
  | application
  | network
  | gateway
  deriving DecidableEq, Repr

namespace Class

/-- The group is of the class. -/
def Holds : Class → TargetGroup → Prop
  | function => IsFunction
  | application => IsApplication
  | network => IsNetwork
  | gateway => IsGateway

/-- The class that a protocol belongs to. -/
def ofProtocol : Option Protocol → Class
  | none => function
  | some .http | some .https => application
  | some .tcp | some .tls | some .udp | some .tcpUdp => network
  | some .geneve => gateway

theorem Holds.eq_ofProtocol {kind : Class} (h : kind.Holds group) :
    kind = ofProtocol group.protocol := by
  cases kind with
  | function => rw [IsFunction.protocol h, ofProtocol]
  | application =>
      rcases IsApplication.protocol h with hprotocol | hprotocol <;> rw [hprotocol, ofProtocol]
  | network =>
      have hnetwork : ∀ protocol ∈ [Protocol.tcp, .tls, .udp, .tcpUdp],
          network = ofProtocol (some protocol) := by decide
      obtain ⟨protocol, hmem, hprotocol⟩ := IsNetwork.protocol h
      rw [hprotocol]
      exact hnetwork protocol hmem
  | gateway => rw [IsGateway.protocol h, ofProtocol]

end Class

/-! ## What the checks demand -/

/-- What is demanded of the attributes of a group, for each of them. -/
structure Checked (group : TargetGroup) : Prop where
  port : group.port.isSome = !group.isLambda
  protocol : group.protocol.isSome = !group.isLambda
  vpcId : group.vpcId.isSome = !group.isLambda
  alb : group.targetType = .alb → group.protocol = some .tcp
  gatewayPort : group.protocol = some .geneve → ∀ port ∈ group.port, port = genevePort
  gatewayTargets : group.protocol = some .geneve →
    group.targetType = .instances ∨ group.targetType = .ip
  version : group.protocolVersion.isSome = true → group.isHttp = true
  algorithm : group.algorithm.isSome = true → group.isHttp = true
  slowStart : group.slowStart = 0 ∨
    (30 ≤ group.slowStart.toNat ∧ group.slowStart.toNat ≤ 900) ∧ group.isHttp = true
  cookie : ∀ stickiness ∈ group.stickiness, stickiness.type.IsCookie →
    group.isHttp = true ∨ group.isLambda = true
  source : ∀ stickiness ∈ group.stickiness, stickiness.type = .sourceIp → group.isNetwork = true
  cookieName : ∀ stickiness ∈ group.stickiness,
    (stickiness.cookieName.isSome = true ↔ stickiness.type = .appCookie)
  limits : ∀ check ∈ group.healthCheck,
    (5 ≤ check.interval.toNat ∧ check.interval.toNat ≤ 300) ∧
      2 ≤ check.unhealthyThreshold.toNat ∧ check.unhealthyThreshold.toNat ≤ 10

theorem checkForLambda_eq_nil_iff {field : String} {present : Bool} :
    group.checkForLambda field present = [] ↔ present = !group.isLambda := by
  cases hlambda : group.isLambda <;> simp [checkForLambda, hlambda]

theorem cookie_of_checkStickiness {stickiness : Stickiness}
    (h : group.checkStickiness stickiness = []) :
    (stickiness.cookieName.isSome = true ↔ stickiness.type = .appCookie) ∧
      (stickiness.type.IsCookie → group.isHttp = true ∨ group.isLambda = true) ∧
      (stickiness.type = .sourceIp → group.isNetwork = true) := by
  simp only [checkStickiness, List.append_eq_nil_iff, Check.requires_eq_nil_iff,
    Check.forbids_eq_nil_iff] at h
  obtain ⟨⟨⟨-, hname⟩, hnoName⟩, htype⟩ := h
  refine ⟨⟨fun hgiven => ?_, fun hcookie => hname (decide_eq_true hcookie)⟩, ?_, ?_⟩
  · by_contra hother
    exact hnoName ⟨hgiven, by simpa using hother⟩
  · rintro (hcookie | hcookie) <;>
      simpa [hcookie, or_iff_not_imp_left] using htype
  · intro hsource
    simpa [hsource] using htype

theorem limits_of_checkHealth {check : HealthCheck} (h : group.checkHealth check = []) :
    (5 ≤ check.interval.toNat ∧ check.interval.toNat ≤ 300) ∧
      2 ≤ check.unhealthyThreshold.toNat ∧ check.unhealthyThreshold.toNat ≤ 10 := by
  simp only [checkHealth, List.append_eq_nil_iff, Check.range_eq_nil_iff] at h
  obtain ⟨⟨⟨⟨⟨⟨⟨hinterval, -⟩, hthreshold⟩, -⟩, -⟩, -⟩, -⟩, -⟩ := h
  omega

theorem checked_of_validate (h : Resource.validate group = .ok ()) : group.Checked := by
  rw [Resource.validate_eq_ok_iff] at h
  change group.violations = [] at h
  simp only [violations, List.append_eq_nil_iff, toList_flatMap_eq_nil_iff] at h
  obtain ⟨⟨⟨⟨⟨⟨-, htargets⟩, hgateway⟩, happlication⟩, hhealth⟩, hstickiness⟩, -⟩ := h
  simp only [checkTargetType, List.append_eq_nil_iff, checkForLambda_eq_nil_iff,
    Check.that_eq_nil_iff] at htargets
  simp only [checkGeneve, ite_eq_right_iff, List.append_eq_nil_iff, toList_flatMap_eq_nil_iff,
    Check.that_eq_nil_iff] at hgateway
  simp only [checkApplication, List.append_eq_nil_iff, toList_flatMap_eq_nil_iff,
    ite_eq_left_iff, Check.forbids_eq_nil_iff, Check.range_eq_nil_iff] at happlication
  have hcookie := fun s hgiven => cookie_of_checkStickiness (hstickiness s hgiven)
  obtain ⟨⟨⟨⟨⟨hport, hprotocol⟩, hvpc⟩, -⟩, -⟩, halb⟩ := htargets
  obtain ⟨⟨⟨hversion, -⟩, hslow⟩, halgorithm⟩ := happlication
  exact {
    port := hport
    protocol := hprotocol
    vpcId := hvpc
    alb := fun htarget => by simpa [htarget] using halb
    gatewayPort := fun hgeneve port hgiven => by simpa using (hgateway hgeneve).1 port hgiven
    gatewayTargets := fun hgeneve => by simpa using (hgateway hgeneve).2
    version := fun hgiven => by
      obtain ⟨version, hmem⟩ := Option.isSome_iff_exists.mp hgiven
      simpa using hversion version hmem
    algorithm := fun hgiven => by
      obtain ⟨algorithm, hmem⟩ := Option.isSome_iff_exists.mp hgiven
      simpa using (halgorithm algorithm hmem).2
    slowStart := or_iff_not_imp_left.mpr fun hslow' => by
      obtain ⟨⟨hlow, hhigh⟩, hhttp⟩ := hslow hslow'
      exact ⟨⟨by omega, by omega⟩, by simpa using hhttp⟩
    cookie := fun s hgiven => (hcookie s hgiven).2.1
    source := fun s hgiven => (hcookie s hgiven).2.2
    cookieName := fun s hgiven => (hcookie s hgiven).1
    limits := fun check hgiven => limits_of_checkHealth (hhealth check hgiven) }

/-! ## From the protocol to the class -/

theorem isHttp_eq {protocol : Protocol} (hprotocol : group.protocol = some protocol) :
    group.isHttp = protocol.isHttp := by
  rw [isHttp, hprotocol, Option.any_some]

theorem isNetwork_eq {protocol : Protocol} (hprotocol : group.protocol = some protocol) :
    group.isNetwork = protocol.isNetwork := by
  rw [TargetGroup.isNetwork, hprotocol, Option.any_some]

namespace Checked

theorem isLambda_eq_false (h : group.Checked) {protocol : Protocol}
    (hprotocol : group.protocol = some protocol) : group.isLambda = false := by
  have hgiven := h.protocol
  rw [hprotocol] at hgiven
  exact (Bool.not_eq_true' _).mp hgiven.symm

theorem isLambda_eq_true (h : group.Checked) (hprotocol : group.protocol = none) :
    group.isLambda = true := by
  have hgiven := h.protocol
  rw [hprotocol] at hgiven
  exact (Bool.not_eq_false' _).mp hgiven.symm

/-- What makes sense for application protocols is absent for others. -/
theorem plain (h : group.Checked) (hhttp : group.isHttp = false) :
    group.protocolVersion = none ∧ group.algorithm = none ∧ group.slowStart = 0 := by
  have hnot : ¬group.isHttp = true := Bool.not_eq_true _ ▸ hhttp
  refine ⟨?_, ?_, h.slowStart.resolve_right fun hslow => hnot hslow.2⟩
  · exact Option.not_isSome_iff_eq_none.mp (mt h.version hnot)
  · exact Option.not_isSome_iff_eq_none.mp (mt h.algorithm hnot)

/-- The address of the source is looked at only for network protocols. -/
theorem cookies (h : group.Checked) (hnetwork : group.isNetwork = false) :
    ∀ stickiness ∈ group.stickiness, stickiness.type.IsCookie := by
  intro stickiness hgiven
  refine stickiness.type.isCookie_or.resolve_right fun hsource => ?_
  exact Bool.false_ne_true (hnetwork ▸ h.source stickiness hgiven hsource)

/-- Cookies are looked at only for application protocols and functions. -/
theorem sources (h : group.Checked) (hhttp : group.isHttp = false)
    (hlambda : group.isLambda = false) :
    ∀ stickiness ∈ group.stickiness, stickiness.type = .sourceIp := by
  intro stickiness hgiven
  refine stickiness.type.isCookie_or.resolve_left fun hcookie => ?_
  rcases h.cookie stickiness hgiven hcookie with htrue | htrue
  · exact Bool.false_ne_true (hhttp ▸ htrue)
  · exact Bool.false_ne_true (hlambda ▸ htrue)

/-- Load balancers are targets for one protocol only. -/
theorem targets (h : group.Checked) (hlambda : group.isLambda = false)
    (hprotocol : group.protocol ≠ some .tcp) :
    group.targetType = .instances ∨ group.targetType = .ip := by
  have hlambda : group.targetType ≠ .lambda := of_decide_eq_false hlambda
  have halb := mt h.alb hprotocol
  revert hlambda halb
  cases group.targetType <;> simp

theorem isFunction (h : group.Checked) (hprotocol : group.protocol = none) :
    group.IsFunction := by
  have hlambda := h.isLambda_eq_true hprotocol
  have hport := h.port
  have hvpc := h.vpcId
  rw [hlambda, Bool.not_true, Option.isSome_eq_false_iff, Option.isNone_iff_eq_none]
    at hport hvpc
  obtain ⟨hversion, halgorithm, hslow⟩ := h.plain (by rw [isHttp, hprotocol]; rfl)
  exact {
    targetType := of_decide_eq_true hlambda
    port := hport
    protocol := hprotocol
    vpcId := hvpc
    protocolVersion := hversion
    algorithm := halgorithm
    slowStart := hslow
    stickiness := h.cookies (by rw [TargetGroup.isNetwork, hprotocol]; rfl) }

section Servers

variable (h : group.Checked) {protocol : Protocol} (hprotocol : group.protocol = some protocol)

include h hprotocol

theorem isSome_port : group.port.isSome = true := by
  rw [h.port, h.isLambda_eq_false hprotocol, Bool.not_false]

theorem isSome_vpcId : group.vpcId.isSome = true := by
  rw [h.vpcId, h.isLambda_eq_false hprotocol, Bool.not_false]

theorem isApplication (hhttp : protocol.isHttp = true) : group.IsApplication := by
  have hone : protocol = .http ∨ protocol = .https := Protocol.isHttp_iff.mp hhttp
  have htcp : protocol ≠ .tcp := by
    rcases hone with rfl | rfl <;> decide
  have hnetwork : protocol.isNetwork = false := by
    rcases hone with rfl | rfl <;> rfl
  exact {
    targetType := h.targets (h.isLambda_eq_false hprotocol)
      (hprotocol ▸ fun heq => htcp (Option.some.inj heq))
    port := h.isSome_port hprotocol
    protocol := by rwa [hprotocol, Option.some_inj, Option.some_inj]
    vpcId := h.isSome_vpcId hprotocol
    slowStart := h.slowStart.imp_right And.left
    stickiness := h.cookies ((isNetwork_eq hprotocol).trans hnetwork) }

theorem isNetwork (hnetwork : protocol.isNetwork = true) : group.IsNetwork := by
  have hone := Protocol.isNetwork_iff.mp hnetwork
  have hhttp : group.isHttp = false := by
    rw [isHttp_eq hprotocol]
    revert hone
    cases protocol <;> decide
  obtain ⟨hversion, halgorithm, hslow⟩ := h.plain hhttp
  exact {
    port := h.isSome_port hprotocol
    protocol := ⟨protocol, hone, hprotocol⟩
    vpcId := h.isSome_vpcId hprotocol
    protocolVersion := hversion
    algorithm := halgorithm
    slowStart := hslow
    stickiness := h.sources hhttp (h.isLambda_eq_false hprotocol) }

end Servers

theorem isGateway (h : group.Checked) (hprotocol : group.protocol = some .geneve) :
    group.IsGateway := by
  obtain ⟨hversion, halgorithm, hslow⟩ := h.plain (isHttp_eq hprotocol)
  obtain ⟨port, hport⟩ := Option.isSome_iff_exists.mp (h.isSome_port hprotocol)
  have hsources := h.sources (isHttp_eq hprotocol) (h.isLambda_eq_false hprotocol)
  have hnetwork : group.isNetwork = false := isNetwork_eq hprotocol
  exact {
    targetType := h.gatewayTargets hprotocol
    port := by rw [hport, h.gatewayPort hprotocol port hport]; rfl
    protocol := hprotocol
    vpcId := h.isSome_vpcId hprotocol
    protocolVersion := hversion
    algorithm := halgorithm
    slowStart := hslow
    -- stickiness would be by the source, which needs a network protocol
    stickiness := Option.eq_none_iff_forall_not_mem.mpr fun stickiness hgiven =>
      Bool.false_ne_true (hnetwork ▸ h.source stickiness hgiven (hsources stickiness hgiven)) }

/-- The group is of the class that its protocol belongs to. -/
theorem holds_ofProtocol (h : group.Checked) : (Class.ofProtocol group.protocol).Holds group := by
  cases hprotocol : group.protocol with
  | none => exact h.isFunction hprotocol
  | some protocol =>
      cases protocol with
      | http | https => exact h.isApplication hprotocol rfl
      | tcp | tls | udp | tcpUdp => exact h.isNetwork hprotocol rfl
      | geneve => exact h.isGateway hprotocol

end Checked

/-! ## Failures -/

/-- Health checks keep to limits, those that are not given as well. -/
theorem Checked.limits_getD (h : group.Checked) :
    let check := group.healthCheck.getD .default
    (5 ≤ check.interval.toNat ∧ check.interval.toNat ≤ 300) ∧
      2 ≤ check.unhealthyThreshold.toNat ∧ check.unhealthyThreshold.toNat ≤ 10 := by
  cases hgiven : group.healthCheck with
  | none => decide
  | some check => exact h.limits check hgiven

/-- Within the limits of health checks a product of 32 bits is the product. -/
theorem Checked.failureDetection (h : group.Checked) :
    let check := group.healthCheck.getD .default
    let seconds := group.computed.failureDetectionSeconds.toNat
    seconds = check.interval.toNat * check.unhealthyThreshold.toNat ∧
      10 ≤ seconds ∧ seconds ≤ 3000 := by
  intro check seconds
  obtain ⟨⟨hinterval, hinterval'⟩, hthreshold, hthreshold'⟩ := h.limits_getD
  have hlow : 5 * 2 ≤ check.interval.toNat * check.unhealthyThreshold.toNat :=
    Nat.mul_le_mul hinterval hthreshold
  have hhigh : check.interval.toNat * check.unhealthyThreshold.toNat ≤ 300 * 10 :=
    Nat.mul_le_mul hinterval' hthreshold'
  have hlt : check.interval.toNat * check.unhealthyThreshold.toNat < UInt32.size :=
    calc check.interval.toNat * check.unhealthyThreshold.toNat
        ≤ 300 * 10 := hhigh
      _ < UInt32.size := by decide
  have hseconds : seconds = check.interval.toNat * check.unhealthyThreshold.toNat :=
    calc seconds
        = check.interval.toNat * check.unhealthyThreshold.toNat % UInt32.size :=
          UInt32.toNat_mul _ _
      _ = check.interval.toNat * check.unhealthyThreshold.toNat := Nat.mod_eq_of_lt hlt
  omega

/-! ## Accepted groups -/

/-- What an accepted group is known to keep to. -/
structure Classified (group : TargetGroup) : Prop where
  kind : ∃! kind : Class, kind.Holds group
  alb : group.targetType = .alb → group.protocol = some .tcp
  requiresVpc : group.computed.requiresVpc = true ↔ group.vpcId.isSome = true
  network : group.computed.isNetwork = true ↔ Class.network.Holds group
  cookieName : ∀ stickiness ∈ group.stickiness,
    (stickiness.cookieName.isSome = true ↔ stickiness.type = .appCookie)
  failureDetection :
    let check := group.healthCheck.getD .default
    let seconds := group.computed.failureDetectionSeconds.toNat
    seconds = check.interval.toNat * check.unhealthyThreshold.toNat ∧
      10 ≤ seconds ∧ seconds ≤ 3000

/-- **An accepted group is of one class.**  What is computed of it follows from the
class and from the limits of its health check. -/
theorem classified_of_validate (h : Resource.validate group = .ok ()) : group.Classified := by
  have hchecked := checked_of_validate h
  refine ⟨⟨_, hchecked.holds_ofProtocol, fun _ hkind => hkind.eq_ofProtocol⟩, hchecked.alb, ?_,
    ⟨fun hnetwork => ?_, fun hnetwork => ?_⟩, hchecked.cookieName, hchecked.failureDetection⟩
  · rw [hchecked.vpcId]
    rfl
  · obtain ⟨protocol, hprotocol, hnetwork⟩ := (Option.any_eq_true ..).mp hnetwork
    exact hchecked.isNetwork hprotocol hnetwork
  · obtain ⟨protocol, hmem, hprotocol⟩ := IsNetwork.protocol hnetwork
    exact (isNetwork_eq hprotocol).trans (Protocol.isNetwork_iff.mpr hmem)

/-- A shop that keeps requests with the same cookie together. -/
def shopGroup : TargetGroup :=
  { ofProtocol 8443 .https (Interpolation.ofResource "aws_vpc" "main" "id") with
    slowStart := 60
    stickiness := some ⟨.appCookie, true, 3600, some "SESSION"⟩ }

theorem classified_shopGroup :
    Resource.validate shopGroup = .ok () ∧ shopGroup.Classified ∧ shopGroup.IsApplication := by
  have h : Resource.validate shopGroup = .ok () :=
    Resource.validate_eq_ok_iff.mpr (by decide +kernel)
  exact ⟨h, classified_of_validate h, (checked_of_validate h).isApplication rfl rfl⟩

end TargetGroup

end InfraSynth.Aws

import InfraSynth.Aws.SecurityGroup
import InfraSynth.Proofs.Check
import InfraSynth.Proofs.Text

/-!
# Texts for protocols

The protocol of a rule is given by a name or by a number, and some protocols have
both.  `IpProtocol.ofText?` says which protocol an accepted text stands for.  A rule
should be treated alike whichever of the texts for its protocol it has.

Numbers are read with a sign and with zeros in front, too, but the functions that
look for a protocol know only its `IpProtocol.texts`.  Whether two texts for one
protocol are treated alike is decided by that alone, `areAlike_iff`: nothing else
about a text plays a part, and for protocols that no function looks for not even
that.
-/

namespace InfraSynth.Aws.SecurityGroupRule

/-- What the text for a protocol stands for. -/
inductive IpProtocol
  | all
  | number (value : Nat)
  deriving DecidableEq

namespace IpProtocol

/-- The protocols that go by a name. -/
def named : List (String × IpProtocol) := [
  ("-1", all), ("all", all), ("tcp", number 6), ("udp", number 17), ("icmp", number 1),
  ("icmpv6", number 58)]

/-- The protocol that a text stands for: the one with that number, or else with
that name. -/
def ofText? (text : String) : Option IpProtocol :=
  match Text.natural? 255 text with
  | some value => some (number value)
  | none => named.lookup text

/-- The usual texts for a protocol, which are its names and its number without a
sign and without zeros in front. -/
def texts : IpProtocol → List String
  | all => ["-1", "all"]
  | number value =>
    (named.filter fun entry => entry.2 = number value).map Prod.fst ++ [toString value]

/-- The protocols that some function looks for. -/
def special : List IpProtocol :=
  [number 1, number 6, number 17, number 58]

variable {protocol : IpProtocol} {text first second : String}

/-- The names are no numbers. -/
theorem natural?_of_mem_named {entry : String × IpProtocol} (h : entry ∈ named) :
    Text.natural? 255 entry.1 = none ∧ named.lookup entry.1 = some entry.2 := by
  revert entry
  decide

/-- The usual texts for a protocol of 8 bits stand for it. -/
theorem ofText?_of_mem_texts (hvalue : ∀ value, protocol = number value → value ≤ 255)
    (h : text ∈ protocol.texts) : ofText? text = some protocol := by
  have hnamed : ∀ entry ∈ named, ofText? entry.1 = some entry.2 := by
    intro entry hentry
    obtain ⟨hnatural, hlookup⟩ := natural?_of_mem_named hentry
    rw [ofText?, hnatural, hlookup]
  cases protocol with
  | all =>
      have hentry : (text, all) ∈ named := by
        revert h
        simp [texts, named]
      exact hnamed _ hentry
  | number value =>
      rcases List.mem_append.mp h with hname | hnumber
      · obtain ⟨entry, hentry, rfl⟩ := List.mem_map.mp hname
        obtain ⟨hentry, hprotocol⟩ := List.mem_filter.mp hentry
        rw [hnamed entry hentry, of_decide_eq_true hprotocol]
      · rw [List.mem_singleton.mp hnumber, ofText?, Text.natural?_toString (hvalue value rfl)]

/-- All texts for all traffic are usual ones. -/
theorem mem_texts_all (h : ofText? text = some all) : text ∈ texts all := by
  unfold ofText? at h
  split at h
  · exact IpProtocol.noConfusion (Option.some.inj h)
  · obtain ⟨before, after, hnamed, -⟩ := List.lookup_eq_some_iff.mp h
    have hentry : (text, all) ∈ named := by
      rw [hnamed]
      exact List.mem_append_right _ (List.mem_cons_self ..)
    revert hentry
    simp [named, texts]

/-- A function that looks for the usual texts for some protocols finds a text
exactly if it is usual and stands for one of them. -/
theorem mem_flatMap_texts_iff {protocols : List IpProtocol}
    (hvalues : ∀ value, number value ∈ protocols → value ≤ 255)
    (htext : ofText? text = some protocol) :
    text ∈ protocols.flatMap texts ↔ text ∈ protocol.texts ∧ protocol ∈ protocols := by
  rw [List.mem_flatMap]
  constructor
  · rintro ⟨found, hfound, hmem⟩
    have hread : ofText? text = some found := by
      refine ofText?_of_mem_texts (fun value hvalue => ?_) hmem
      exact hvalues value (hvalue ▸ hfound)
    obtain rfl := Option.some.inj (htext.symm.trans hread)
    exact ⟨hmem, hfound⟩
  · rintro ⟨hmem, hprotocol⟩
    exact ⟨protocol, hprotocol, hmem⟩

end IpProtocol

/-! ## What is looked for -/

section Flags

open IpProtocol

variable {rule : SecurityGroupRule} {protocol : IpProtocol} {path : String}

/-- The check of the protocol is passed by the texts that stand for one. -/
theorem checkProtocol_eq_nil_iff :
    rule.checkProtocol path = [] ↔ ∃ protocol, ofText? rule.protocol = some protocol := by
  have hnames : ∀ text, text ∈ protocols ↔ ∃ protocol, named.lookup text = some protocol := by
    intro text
    rw [← Option.isSome_iff_exists, List.lookup_isSome_iff]
    simp [protocols, named]
    tauto
  unfold checkProtocol ofText?
  cases hnatural : Text.natural? 255 rule.protocol with
  | some value => simp
  | none =>
      rw [Option.isSome_none, if_neg Bool.false_ne_true, Check.oneOf_eq_nil_iff]
      exact hnames rule.protocol

theorem isAllTraffic_iff (h : ofText? rule.protocol = some protocol) :
    rule.isAllTraffic = true ↔ protocol = .all := by
  have htexts : [all].flatMap texts = ["-1", "all"] := by decide
  have hfound : rule.protocol ∈ [all].flatMap texts ↔
      rule.protocol ∈ protocol.texts ∧ protocol ∈ [all] := mem_flatMap_texts_iff (by simp) h
  rw [htexts, List.mem_singleton] at hfound
  have hall : rule.isAllTraffic = true ↔ rule.protocol ∈ ["-1", "all"] := by
    simp [isAllTraffic]
  rw [hall, hfound]
  constructor
  · exact And.right
  · rintro rfl
    exact ⟨mem_texts_all h, rfl⟩

theorem isIcmp_iff (h : ofText? rule.protocol = some protocol) :
    rule.isIcmp = true ↔ rule.protocol ∈ protocol.texts ∧ protocol ∈ [number 1, number 58] := by
  have htexts : [number 1, number 58].flatMap texts = ["icmp", "1", "icmpv6", "58"] := by decide
  rw [← mem_flatMap_texts_iff (by simp) h, htexts]
  simp [isIcmp]
  tauto

theorem hasPortRange_iff (h : ofText? rule.protocol = some protocol) :
    rule.hasPortRange = true ↔
      rule.protocol ∈ protocol.texts ∧ protocol ∈ [number 6, number 17] := by
  have htexts : [number 6, number 17].flatMap texts = ["tcp", "6", "udp", "17"] := by decide
  rw [← mem_flatMap_texts_iff (by simp) h, htexts]
  simp [hasPortRange]
  tauto

theorem coversTcpPort_iff (h : ofText? rule.protocol = some protocol) {port : Int32} :
    rule.coversTcpPort port = true ↔ protocol = .all ∨
      (rule.protocol ∈ protocol.texts ∧ protocol ∈ [number 6]) ∧
        rule.fromPort ≤ port ∧ port ≤ rule.toPort := by
  have htexts : [number 6].flatMap texts = ["tcp", "6"] := by decide
  rw [← mem_flatMap_texts_iff (by simp) h, htexts, ← isAllTraffic_iff h]
  simp [coversTcpPort, and_assoc]

/-- The ports of a rule fit its protocol. -/
def PortsFit (rule : SecurityGroupRule) (protocol : IpProtocol) : Prop :=
  let low := rule.fromPort.toInt
  let high := rule.toPort.toInt
  (-1 ≤ low ∧ low ≤ 65535) ∧ (-1 ≤ high ∧ high ≤ 65535) ∧
    (rule.protocol ∈ protocol.texts ∧ protocol ∈ [number 1, number 58] →
      low ≤ 255 ∧ high ≤ 255) ∧
    (rule.protocol ∈ protocol.texts ∧ protocol ∈ [number 6, number 17] → low ≤ high) ∧
    (protocol = .all → low = 0 ∧ high = 0)

theorem checkPorts_eq_nil_iff (h : ofText? rule.protocol = some protocol) :
    rule.checkPorts path = [] ↔ rule.PortsFit protocol := by
  have hbound : ∀ port : Int, (-1 ≤ port ∧ port ≤ if rule.isIcmp = true then 255 else 65535) ↔
      (-1 ≤ port ∧ port ≤ 65535) ∧ (rule.isIcmp = true → port ≤ 255) := by
    intro port
    cases rule.isIcmp with
    | false => simp
    | true =>
        simp only [if_true, forall_const]
        omega
  have horder : (!rule.hasPortRange || decide (rule.fromPort.toInt ≤ rule.toPort.toInt)) = true ↔
      (rule.hasPortRange = true → rule.fromPort.toInt ≤ rule.toPort.toInt) := by
    cases rule.hasPortRange <;> simp
  have hzero : (!rule.isAllTraffic ||
      (decide (rule.fromPort.toInt = 0) && decide (rule.toPort.toInt = 0))) = true ↔
      (rule.isAllTraffic = true → rule.fromPort.toInt = 0 ∧ rule.toPort.toInt = 0) := by
    cases rule.isAllTraffic <;> simp
  simp only [checkPorts, List.append_eq_nil_iff, Check.range_eq_nil_iff, Check.that_eq_nil_iff,
    hbound, horder, hzero, PortsFit, ← isIcmp_iff h, ← hasPortRange_iff h, ← isAllTraffic_iff h]
  constructor
  · rintro ⟨⟨⟨⟨hlow, hlowIcmp⟩, hhigh, hhighIcmp⟩, horder⟩, hzero⟩
    exact ⟨hlow, hhigh, fun hicmp => ⟨hlowIcmp hicmp, hhighIcmp hicmp⟩, horder, hzero⟩
  · rintro ⟨hlow, hhigh, hicmp, horder, hzero⟩
    exact ⟨⟨⟨⟨hlow, fun h => (hicmp h).1⟩, hhigh, fun h => (hicmp h).2⟩, horder⟩, hzero⟩

end Flags

/-! ## Exchanging one text for another -/

open IpProtocol

/-- The rule with another text for its protocol. -/
def withProtocol (rule : SecurityGroupRule) (text : String) : SecurityGroupRule :=
  { rule with protocol := text }

/-- Rules that have one of two texts for their protocol are treated as those that
have the other one: they are accepted alike and cover the same ports. -/
def AreAlike (first second : String) : Prop :=
  ∀ (rule : SecurityGroupRule) (path : String) (port : Int32),
    ((rule.withProtocol first).check path = [] ↔ (rule.withProtocol second).check path = []) ∧
      (rule.withProtocol first).coversTcpPort port = (rule.withProtocol second).coversTcpPort port

variable {first second : String} {protocol : IpProtocol}

/-- Texts for one protocol look alike to a function that looks for special
protocols, if both of them are usual or neither is. -/
theorem found_iff_found (protocols : List IpProtocol) (hspecial : protocols ⊆ special)
    (h : (first ∈ protocol.texts ↔ second ∈ protocol.texts) ∨ protocol ∉ special) :
    (first ∈ protocol.texts ∧ protocol ∈ protocols) ↔
      (second ∈ protocol.texts ∧ protocol ∈ protocols) := by
  rcases h with husual | hnot
  · rw [husual]
  · have habsent : protocol ∉ protocols := fun hmem => hnot (hspecial hmem)
    simp only [habsent, and_false]

theorem portsFit_iff_portsFit (rule : SecurityGroupRule)
    (h : (first ∈ protocol.texts ↔ second ∈ protocol.texts) ∨ protocol ∉ special) :
    (rule.withProtocol first).PortsFit protocol ↔ (rule.withProtocol second).PortsFit protocol := by
  have hicmp := found_iff_found [number 1, number 58] (by simp [special]) h
  have hrange := found_iff_found [number 6, number 17] (by simp [special]) h
  simp only [PortsFit, withProtocol, hicmp, hrange]

/-- Apart from the ports nothing that is checked depends on the protocol. -/
theorem check_eq_nil_iff_check_eq_nil {rule : SecurityGroupRule} {path : String}
    (hfirst : ofText? first = some protocol) (hsecond : ofText? second = some protocol)
    (hports : (rule.withProtocol first).PortsFit protocol ↔
      (rule.withProtocol second).PortsFit protocol) :
    (rule.withProtocol first).check path = [] ↔ (rule.withProtocol second).check path = [] := by
  have hprotocol : (rule.withProtocol first).checkProtocol path = [] ↔
      (rule.withProtocol second).checkProtocol path = [] :=
    iff_of_true (checkProtocol_eq_nil_iff.mpr ⟨protocol, hfirst⟩)
      (checkProtocol_eq_nil_iff.mpr ⟨protocol, hsecond⟩)
  have hfirstPorts : (rule.withProtocol first).checkPorts path = [] ↔
      (rule.withProtocol first).PortsFit protocol := checkPorts_eq_nil_iff hfirst
  have hsecondPorts : (rule.withProtocol second).checkPorts path = [] ↔
      (rule.withProtocol second).PortsFit protocol := checkPorts_eq_nil_iff hsecond
  rw [← hfirstPorts, ← hsecondPorts] at hports
  simp only [check, List.append_eq_nil_iff, hprotocol, hports]
  rfl

/-- Texts of which both are usual or neither is are treated alike. -/
theorem areAlike_of_iff (hfirst : ofText? first = some protocol)
    (hsecond : ofText? second = some protocol)
    (h : (first ∈ protocol.texts ↔ second ∈ protocol.texts) ∨ protocol ∉ special) :
    AreAlike first second := by
  intro rule path port
  refine ⟨check_eq_nil_iff_check_eq_nil hfirst hsecond (portsFit_iff_portsFit rule h), ?_⟩
  have htcp := found_iff_found [number 6] (by simp [special]) h
  have hfirst' : ofText? (rule.withProtocol first).protocol = some protocol := hfirst
  have hsecond' : ofText? (rule.withProtocol second).protocol = some protocol := hsecond
  rw [Bool.eq_iff_iff, coversTcpPort_iff hfirst', coversTcpPort_iff hsecond']
  simp only [withProtocol, htcp]

/-- A rule for itself as the source, from a port to the one before it. -/
def reversed (text : String) : SecurityGroupRule :=
  { onPort text 300 with toPort := 299, selfReferencing := true }

/-- The ports are out of order, or too high for types of messages, but only the
usual texts for a special protocol are held to that. -/
theorem check_reversed_eq_nil_iff {text path : String} (hspecial : protocol ∈ special)
    (htext : ofText? text = some protocol) :
    (reversed text).check path = [] ↔ text ∉ protocol.texts := by
  have hlow : (reversed text).fromPort.toInt = 300 := rfl
  have hhigh : (reversed text).toPort.toInt = 299 := rfl
  have hkind : protocol ∈ [number 1, number 58] ∨ protocol ∈ [number 6, number 17] := by
    have hall : ∀ p ∈ special, p ∈ [number 1, number 58] ∨ p ∈ [number 6, number 17] := by decide
    exact hall protocol hspecial
  have hports : (reversed text).PortsFit protocol ↔ text ∉ protocol.texts := by
    unfold PortsFit
    rw [hlow, hhigh]
    constructor
    · rintro ⟨-, -, hicmp, horder, -⟩ husual
      rcases hkind with hkind | hkind
      · exact absurd (hicmp ⟨husual, hkind⟩).1 (by decide)
      · exact absurd (horder ⟨husual, hkind⟩) (by decide)
    · intro hnot
      refine ⟨by decide, by decide, fun h => absurd h.1 hnot, fun h => absurd h.1 hnot, ?_⟩
      rintro rfl
      exact absurd hspecial (by decide)
  have hprotocol : (reversed text).checkProtocol path = [] :=
    checkProtocol_eq_nil_iff.mpr ⟨protocol, htext⟩
  have hsource : (reversed text).hasSource = true := rfl
  have hcidrs : ∀ field, checkCidrs field (reversed text).cidrBlocks = [] := fun _ => rfl
  have hdescription : ∀ field, Check.length field (reversed text).description 0 255 = [] :=
    fun _ => rfl
  have hcheck : (reversed text).checkPorts path = [] ↔ (reversed text).PortsFit protocol :=
    checkPorts_eq_nil_iff htext
  rw [← hports, ← hcheck]
  simp only [check, List.append_eq_nil_iff, hprotocol, Check.that_eq_nil_iff, hsource, hcidrs,
    hdescription, true_and, and_true]
  exact and_iff_left rfl

/-- **Two texts for one protocol are treated alike exactly if both are usual texts
for it or neither is, or if no function looks for the protocol.** -/
theorem areAlike_iff (hfirst : ofText? first = some protocol)
    (hsecond : ofText? second = some protocol) :
    AreAlike first second ↔
      (first ∈ protocol.texts ↔ second ∈ protocol.texts) ∨ protocol ∉ special := by
  constructor
  · intro h
    by_cases hspecial : protocol ∈ special
    · have hcheck : (reversed first).check "" = [] ↔ (reversed second).check "" = [] :=
        (h (reversed first) "" 0).1
      rw [check_reversed_eq_nil_iff hspecial hfirst,
        check_reversed_eq_nil_iff hspecial hsecond] at hcheck
      exact Or.inl (not_iff_not.mp hcheck)
    · exact Or.inr hspecial
  · exact areAlike_of_iff hfirst hsecond

theorem areAlike_tcp_six : ofText? "tcp" = some (number 6) ∧ ofText? "6" = some (number 6) ∧
    AreAlike "tcp" "6" := by
  have htcp : ofText? "tcp" = some (number 6) := by decide
  have hsix : ofText? "6" = some (number 6) := by decide
  exact ⟨htcp, hsix, (areAlike_iff htcp hsix).mpr (Or.inl (by decide))⟩

/-- The rule for remote logins from everywhere, with a text for its protocol. -/
def login (text : String) : SecurityGroupRule :=
  (onPort text 22).withCidr "0.0.0.0/0"

/-- With a zero in front of its number the protocol is accepted as the same one, but
the port is no longer covered, and ports out of order are accepted, too. -/
theorem not_areAlike_tcp_padded :
    ofText? "tcp" = some (number 6) ∧ ofText? "06" = some (number 6) ∧
      (login "tcp").check "" = [] ∧ (login "06").check "" = [] ∧
      (login "tcp").coversTcpPort 22 = true ∧ (login "06").coversTcpPort 22 = false ∧
      (reversed "tcp").check "" ≠ [] ∧ (reversed "06").check "" = [] ∧
      ¬AreAlike "tcp" "06" := by
  have hcovers : (login "tcp").coversTcpPort 22 = true ∧ (login "06").coversTcpPort 22 = false := by
    decide
  refine ⟨by decide, by decide, by decide +kernel, by decide +kernel, hcovers.1, hcovers.2,
    by decide +kernel, by decide +kernel, fun h => ?_⟩
  have hsame : (login "tcp").coversTcpPort 22 = (login "06").coversTcpPort 22 :=
    (h (login "tcp") "" 22).2
  rw [hcovers.1, hcovers.2] at hsame
  contradiction

end InfraSynth.Aws.SecurityGroupRule

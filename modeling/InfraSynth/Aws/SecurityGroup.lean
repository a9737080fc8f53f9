import InfraSynth.Aws.Arn
import InfraSynth.Aws.Cidr
import InfraSynth.Aws.Tags
import InfraSynth.Resource

/-!
# `aws_security_group`

A set of rules that say which traffic may enter and leave.  A rule is written
with all its fields, also those that are empty.
-/

namespace InfraSynth.Aws

/-- A rule that admits traffic of a protocol on a range of ports from some
sources, or to some targets. -/
structure SecurityGroupRule where
  fromPort : Int32
  toPort : Int32
  protocol : String
  cidrBlocks : List String
  ipv6CidrBlocks : List String
  securityGroups : List String
  listIds : List String
  selfReferencing : Bool
  description : String
  deriving DecidableEq

namespace SecurityGroupRule

/-- How a rule is written. -/
def record : JsonRecord SecurityGroupRule where
  name := "SecurityGroupRule"
  types := _
  fields :=
    .cons (.required "from_port" .int32) <|
    .cons (.required "to_port" .int32) <|
    .cons (.required "protocol" .text) <|
    .cons (.defaulted "cidr_blocks" (.list .text) []) <|
    .cons (.defaulted "ipv6_cidr_blocks" (.list .text) []) <|
    .cons (.defaulted "security_groups" (.list .text) []) <|
    .cons (.defaulted "prefix_list_ids" (.list .text) []) <|
    .cons (.defaulted "self" .flag false) <|
    .cons (.defaulted "description" .text "") .nil
  build := fun (fromPort, toPort, protocol, cidrBlocks, ipv6CidrBlocks, securityGroups, listIds,
      selfReferencing, description, ()) =>
    { fromPort, toPort, protocol, cidrBlocks, ipv6CidrBlocks, securityGroups, listIds,
      selfReferencing, description }
  row rule := (rule.fromPort, rule.toPort, rule.protocol, rule.cidrBlocks, rule.ipv6CidrBlocks,
    rule.securityGroups, rule.listIds, rule.selfReferencing, rule.description, ())

/-- The rule for a protocol on one port that names no sources. -/
def onPort (protocol : String) (port : Int32) : SecurityGroupRule where
  fromPort := port
  toPort := port
  protocol
  cidrBlocks := []
  ipv6CidrBlocks := []
  securityGroups := []
  listIds := []
  selfReferencing := false
  description := ""

/-- The rule for one port of TCP. -/
def tcp (port : Int32) : SecurityGroupRule :=
  onPort "tcp" port

/-- The rule for all traffic. -/
def allTraffic : SecurityGroupRule :=
  onPort "-1" 0

/-- The rule with one more block of addresses. -/
def withCidr (rule : SecurityGroupRule) (cidr : String) : SecurityGroupRule :=
  { rule with cidrBlocks := rule.cidrBlocks ++ [cidr] }

/-- The protocols that go by a name. -/
def protocols : List String :=
  ["-1", "tcp", "udp", "icmp", "icmpv6", "all"]

/-- Whether the rule admits all traffic. -/
def isAllTraffic (rule : SecurityGroupRule) : Bool :=
  rule.protocol = "-1" || rule.protocol = "all"

/-- Whether the ports of the rule are types and codes of control messages. -/
def isIcmp (rule : SecurityGroupRule) : Bool :=
  ["icmp", "icmpv6", "1", "58"].contains rule.protocol

/-- Whether the ports of the rule are a range of ports. -/
def hasPortRange (rule : SecurityGroupRule) : Bool :=
  ["tcp", "udp", "6", "17"].contains rule.protocol

/-- Whether the rule names the block of all IPv4 or of all IPv6 addresses. -/
def isOpenToInternet (rule : SecurityGroupRule) : Bool :=
  rule.cidrBlocks.contains "0.0.0.0/0" || rule.ipv6CidrBlocks.contains "::/0"

/-- Whether the rule admits TCP traffic on a port. -/
def coversTcpPort (rule : SecurityGroupRule) (port : Int32) : Bool :=
  rule.isAllTraffic ||
    ((rule.protocol = "tcp" || rule.protocol = "6") && rule.fromPort ≤ port && port ≤ rule.toPort)

/-- The protocol must go by a name or by a number of 8 bits. -/
def checkProtocol (rule : SecurityGroupRule) (path : String) : List Violation :=
  if (Text.natural? 255 rule.protocol).isSome then []
  else Check.oneOf (Path.field path "protocol") rule.protocol protocols

/-- The ports must fit the protocol. -/
def checkPorts (rule : SecurityGroupRule) (path : String) : List Violation :=
  let fromPath := Path.field path "from_port"
  let low := rule.fromPort.toInt
  let high := rule.toPort.toInt
  let last : Int := if rule.isIcmp then 255 else 65535
  Check.range fromPath low (-1) last ++
  Check.range (Path.field path "to_port") high (-1) last ++
  Check.that (!rule.hasPortRange || low ≤ high) .range fromPath
    s!"from_port {low} is greater than to_port {high}" ++
  Check.that (!rule.isAllTraffic || (low = 0 && high = 0)) .range fromPath
    "all-traffic rules must use from_port = 0 and to_port = 0"

/-- Whether the rule names any source or target. -/
def hasSource (rule : SecurityGroupRule) : Bool :=
  !rule.cidrBlocks.isEmpty || !rule.ipv6CidrBlocks.isEmpty || !rule.securityGroups.isEmpty ||
    !rule.listIds.isEmpty || rule.selfReferencing

/-- What is wrong with a rule. -/
def check (path : String) (rule : SecurityGroupRule) : List Violation :=
  rule.checkProtocol path ++
  rule.checkPorts path ++
  Check.that rule.hasSource .required path
    ("needs at least one of cidr_blocks, ipv6_cidr_blocks, security_groups, prefix_list_ids " ++
      "or self") ++
  checkCidrs (Path.field path "cidr_blocks") rule.cidrBlocks ++
  Path.flatMapItems (Path.field path "security_groups") rule.securityGroups
    (fun path group => checkResourceId path group "sg") ++
  Check.length (Path.field path "description") rule.description 0 255

end SecurityGroupRule

/-- The attributes of a security group. -/
structure SecurityGroup where
  name : Option String
  nameStart : Option String
  description : String
  vpcId : Option String
  ingress : List SecurityGroupRule
  egress : List SecurityGroupRule
  revokeRulesOnDelete : Bool
  tags : TextMap
  deriving DecidableEq

namespace SecurityGroup

/-- The description of groups that are given none. -/
def defaultDescription : String := "Managed by Pangea"

/-- The group with rules for incoming traffic and every other attribute at its
default. -/
def ofIngress (ingress : List SecurityGroupRule) : SecurityGroup where
  name := none
  nameStart := none
  description := defaultDescription
  vpcId := none
  ingress
  egress := []
  revokeRulesOnDelete := false
  tags := .empty

/-- How the attributes are written. -/
def record : JsonRecord SecurityGroup where
  name := "SecurityGroupAttributes"
  types := _
  fields :=
    .cons (.optional "name" .text) <|
    .cons (.optional "name_prefix" .text) <|
    .cons (.defaulted "description" .text defaultDescription) <|
    .cons (.optional "vpc_id" .text) <|
    .cons (.listed "ingress" SecurityGroupRule.record.codec) <|
    .cons (.listed "egress" SecurityGroupRule.record.codec) <|
    .cons (.defaulted "revoke_rules_on_delete" .flag false) <|
    .cons (.textMap "tags") .nil
  build := fun (name, nameStart, description, vpcId, ingress, egress, revokeRulesOnDelete,
      tags, ()) =>
    { name, nameStart, description, vpcId, ingress, egress, revokeRulesOnDelete, tags }
  row group := (group.name, group.nameStart, group.description, group.vpcId, group.ingress,
    group.egress, group.revokeRulesOnDelete, group.tags, ())

/-- What is wrong with a name or the beginning of one. -/
def checkName (field : String) (name : Option String) : List Violation :=
  name.toList.flatMap fun name =>
    Check.length field name 1 255 ++
    Check.that (!Text.startsWith name "sg-") .format field "must not start with 'sg-'"

/-- What is wrong with the attributes. -/
def violations (group : SecurityGroup) : List Violation :=
  checkNameChoice "name" group.name "name_prefix" group.nameStart ++
  checkName "name" group.name ++
  checkName "name_prefix" group.nameStart ++
  Check.length "description" group.description 1 255 ++
  group.vpcId.toList.flatMap (fun id => checkResourceId "vpc_id" id "vpc") ++
  Path.flatMapItems "ingress" group.ingress SecurityGroupRule.check ++
  Path.flatMapItems "egress" group.egress SecurityGroupRule.check ++
  checkTags "tags" group.tags

/-- The port of remote logins. -/
def sshPort : Int32 := 22

/-- The rules for incoming traffic that are open to the internet. -/
def openIngress (group : SecurityGroup) : List SecurityGroupRule :=
  group.ingress.filter (·.isOpenToInternet)

/-- Whether remote logins are admitted from the internet. -/
def allowsSsh (group : SecurityGroup) : Bool :=
  group.openIngress.any (·.coversTcpPort sshPort)

/-- Admitting remote logins from the internet is worth a warning. -/
def warnings (group : SecurityGroup) : List String :=
  if group.allowsSsh then ["ingress allows SSH from the internet"] else []

/-- A range of ports that is reachable from the internet. -/
structure OpenPorts where
  protocol : String
  fromPort : Int32
  toPort : Int32
  deriving DecidableEq

/-- What follows from the attributes of a security group. -/
structure Computed where
  ingressCount : Nat
  egressCount : Nat
  openPorts : List OpenPorts
  allowsSsh : Bool
  allowsAll : Bool
  deriving DecidableEq

/-- What follows from the attributes. -/
def computed (group : SecurityGroup) : Computed where
  ingressCount := group.ingress.length
  egressCount := group.egress.length
  openPorts := group.openIngress.map fun rule => ⟨rule.protocol, rule.fromPort, rule.toPort⟩
  allowsSsh := group.allowsSsh
  allowsAll := group.openIngress.any (·.isAllTraffic)

/-- A range of ports as JSON. -/
def OpenPorts.toJson (ports : OpenPorts) : Json :=
  .object [
    ("protocol", ports.protocol),
    ("from_port", .int ports.fromPort.toInt),
    ("to_port", .int ports.toPort.toInt)]

/-- What follows from the attributes, as JSON. -/
def Computed.toJson (computed : Computed) : Json :=
  .object [
    ("ingress_rule_count", .nat computed.ingressCount),
    ("egress_rule_count", .nat computed.egressCount),
    ("open_ingress_ports", .array (computed.openPorts.map OpenPorts.toJson)),
    ("allows_ssh_from_internet", computed.allowsSsh),
    ("allows_all_ingress_from_internet", computed.allowsAll)]

end SecurityGroup

instance : Resource SecurityGroup where
  typeName := "aws_security_group"
  outputs := ["id", "arn", "name", "owner_id"]
  record := SecurityGroup.record
  check group := ⟨group.violations, group.warnings⟩
  computed group := group.computed.toJson

end InfraSynth.Aws

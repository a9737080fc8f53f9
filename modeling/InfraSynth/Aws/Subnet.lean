import InfraSynth.Aws.Arn
import InfraSynth.Aws.Vpc

/-!
# `aws_subnet`

A part of a virtual network in one availability zone.
-/

namespace InfraSynth.Aws

/-- Names of availability zones: a region and a letter. -/
def zonePattern : Pattern :=
  .sequence [
    .times 2 (.set .lower),
    .optional (.literal "-gov"),
    .literal "-",
    .atLeastOnce (.set .lower),
    .literal "-",
    .set .digit,
    .set .lower]

/-- Identifiers of availability zones, such as `use1-az1`. -/
def zoneIdPattern : Pattern :=
  .sequence [
    .between 3 4 (.set .lower),
    .set .digit,
    .literal "-az",
    .atLeastOnce (.set .digit)]

/-- How many addresses of a subnet cannot be used: those of the network, the
router and the name server, one that is kept for the future, and the broadcast
address. -/
def reservedAddresses : Nat := 5

/-- The attributes of a subnet. -/
structure Subnet where
  vpcId : String
  cidrBlock : String
  ipv6CidrBlock : Option String
  zone : Option String
  zoneId : Option String
  publicAddresses : Bool
  ipv6Addresses : Bool
  tags : TextMap
  deriving DecidableEq

namespace Subnet

/-- The subnet of a network with a block and every other attribute at its
default. -/
def ofBlock (vpcId cidrBlock : String) : Subnet where
  vpcId
  cidrBlock
  ipv6CidrBlock := none
  zone := none
  zoneId := none
  publicAddresses := false
  ipv6Addresses := false
  tags := .empty

/-- How the attributes are written. -/
def record : JsonRecord Subnet where
  name := "SubnetAttributes"
  types := _
  fields :=
    .cons (.required "vpc_id" .text) <|
    .cons (.required "cidr_block" .text) <|
    .cons (.optional "ipv6_cidr_block" .text) <|
    .cons (.optional "availability_zone" .text) <|
    .cons (.optional "availability_zone_id" .text) <|
    .cons (.defaulted "map_public_ip_on_launch" .flag false) <|
    .cons (.defaulted "assign_ipv6_address_on_creation" .flag false) <|
    .cons (.textMap "tags") .nil
  build := fun (vpcId, cidrBlock, ipv6CidrBlock, zone, zoneId, publicAddresses,
      ipv6Addresses, tags, ()) =>
    { vpcId, cidrBlock, ipv6CidrBlock, zone, zoneId, publicAddresses, ipv6Addresses, tags }
  row subnet := (subnet.vpcId, subnet.cidrBlock, subnet.ipv6CidrBlock, subnet.zone,
    subnet.zoneId, subnet.publicAddresses, subnet.ipv6Addresses, subnet.tags, ())

/-- What is wrong with the zone. -/
def checkZone (subnet : Subnet) : List Violation :=
  Check.atMostOneOf [
    ("availability_zone", subnet.zone.isSome),
    ("availability_zone_id", subnet.zoneId.isSome)] ++
  subnet.zone.toList.flatMap (fun zone =>
    Check.formatOrReference "availability_zone" zone zonePattern "an availability zone name") ++
  subnet.zoneId.toList.flatMap fun zoneId =>
    Check.formatOrReference "availability_zone_id" zoneId zoneIdPattern "an availability zone id"

/-- What is wrong with the attributes. -/
def violations (subnet : Subnet) : List Violation :=
  checkResourceId "vpc_id" subnet.vpcId "vpc" ++
  checkCidr "cidr_block" subnet.cidrBlock minNetmask maxNetmask ++
  subnet.checkZone ++
  Check.requires "assign_ipv6_address_on_creation" subnet.ipv6Addresses
    "ipv6_cidr_block" subnet.ipv6CidrBlock.isSome ++
  checkTags "tags" subnet.tags

/-- What follows from the attributes of a subnet. -/
structure Computed where
  isPublic : Bool
  addressCount : Option Nat
  usableAddressCount : Option Nat
  hasIpv6 : Bool
  deriving DecidableEq

/-- What follows from the attributes. -/
def computed (subnet : Subnet) : Computed :=
  let size := (Cidr.parse? subnet.cidrBlock).map Cidr.size
  { isPublic := subnet.publicAddresses
    addressCount := size
    usableAddressCount := size.map (· - reservedAddresses)
    hasIpv6 := subnet.ipv6CidrBlock.isSome }

/-- What follows from the attributes, as JSON. -/
def Computed.toJson (computed : Computed) : Json :=
  .object [
    ("is_public", computed.isPublic),
    ("address_count", .orNull (computed.addressCount.map .nat)),
    ("usable_address_count", .orNull (computed.usableAddressCount.map .nat)),
    ("has_ipv6", computed.hasIpv6)]

end Subnet

instance : Resource Subnet where
  typeName := "aws_subnet"
  outputs := ["id", "arn", "availability_zone", "cidr_block", "vpc_id"]
  record := Subnet.record
  check subnet := ⟨subnet.violations, []⟩
  computed subnet := subnet.computed.toJson

end InfraSynth.Aws

import InfraSynth.Aws.Cidr
import InfraSynth.Aws.Tags
import InfraSynth.Resource

/-!
# `aws_vpc`

A virtual network.  Its addresses are given as a block, or by a pool that they
are taken from and the length of the netmask.
-/

namespace InfraSynth.Aws

/-- The shortest netmask of a network. -/
def minNetmask : Nat := 16

/-- The longest netmask of a network. -/
def maxNetmask : Nat := 28

/-- Whether instances run on shared hardware. -/
inductive Tenancy
  | default
  | dedicated
  deriving DecidableEq, Repr

instance : Enumeration Tenancy where
  all := [.default, .dedicated]
  name
    | .default => "default"
    | .dedicated => "dedicated"

/-- The attributes of a network. -/
structure Vpc where
  cidrBlock : Option String
  poolId : Option String
  netmaskLength : Option UInt8
  tenancy : Tenancy
  dnsSupport : Bool
  dnsHostnames : Bool
  generatedIpv6Block : Bool
  tags : TextMap
  deriving DecidableEq

namespace Vpc

/-- The network with a block and every other attribute at its default. -/
def ofBlock (cidrBlock : String) : Vpc where
  cidrBlock := some cidrBlock
  poolId := none
  netmaskLength := none
  tenancy := .default
  dnsSupport := true
  dnsHostnames := true
  generatedIpv6Block := false
  tags := .empty

/-- How the attributes are written. -/
def record : JsonRecord Vpc where
  name := "VpcAttributes"
  types := _
  fields :=
    .cons (.optional "cidr_block" .text) <|
    .cons (.optional "ipv4_ipam_pool_id" .text) <|
    .cons (.optional "ipv4_netmask_length" .uint8) <|
    .cons (.defaulted "instance_tenancy" .named .default) <|
    .cons (.defaulted "enable_dns_support" .flag true) <|
    .cons (.defaulted "enable_dns_hostnames" .flag true) <|
    .cons (.defaulted "assign_generated_ipv6_cidr_block" .flag false) <|
    .cons (.textMap "tags") .nil
  build := fun (cidrBlock, poolId, netmaskLength, tenancy, dnsSupport, dnsHostnames,
      generatedIpv6Block, tags, ()) =>
    { cidrBlock, poolId, netmaskLength, tenancy, dnsSupport, dnsHostnames,
      generatedIpv6Block, tags }
  row vpc := (vpc.cidrBlock, vpc.poolId, vpc.netmaskLength, vpc.tenancy, vpc.dnsSupport,
    vpc.dnsHostnames, vpc.generatedIpv6Block, vpc.tags, ())

/-- What is wrong with the way the addresses are given. -/
def checkAddresses (vpc : Vpc) : List Violation :=
  Check.exactlyOneOf [
    ("cidr_block", vpc.cidrBlock.isSome), ("ipv4_ipam_pool_id", vpc.poolId.isSome)] ++
  Check.requires "ipv4_ipam_pool_id" vpc.poolId.isSome
    "ipv4_netmask_length" vpc.netmaskLength.isSome ++
  Check.forbids "ipv4_netmask_length" vpc.netmaskLength.isSome vpc.poolId.isNone
    "without ipv4_ipam_pool_id" ++
  vpc.netmaskLength.toList.flatMap (fun length =>
    Check.range "ipv4_netmask_length" length.toNat minNetmask maxNetmask) ++
  vpc.cidrBlock.toList.flatMap fun block => checkCidr "cidr_block" block minNetmask maxNetmask

/-- What is wrong with the attributes. -/
def violations (vpc : Vpc) : List Violation :=
  vpc.checkAddresses ++
  Check.requires "enable_dns_hostnames" vpc.dnsHostnames "enable_dns_support" vpc.dnsSupport ++
  checkTags "tags" vpc.tags

/-- A block outside the private ranges is unusual. -/
def warnings (vpc : Vpc) : List String :=
  vpc.cidrBlock.toList.flatMap fun block =>
    match literalCidr? block with
    | some cidr =>
      if cidr.isPrivate then [] else [s!"cidr_block {block} is not an RFC 1918 private range"]
    | none => []

/-- The block, if one is given literally. -/
def cidr? (vpc : Vpc) : Option Cidr :=
  vpc.cidrBlock.bind Cidr.parse?

/-- What follows from the attributes of a network. -/
structure Computed where
  isPrivate : Bool
  addressCount : Option Nat
  usesDedicatedTenancy : Bool
  hasIpv6 : Bool
  deriving DecidableEq

/-- What follows from the attributes. -/
def computed (vpc : Vpc) : Computed where
  isPrivate := vpc.cidr?.any Cidr.isPrivate
  addressCount := (vpc.cidr?.map Cidr.size).or
    (vpc.netmaskLength.map fun length => Nat.pow 2 (32 - length.toNat))
  usesDedicatedTenancy := vpc.tenancy = .dedicated
  hasIpv6 := vpc.generatedIpv6Block

/-- What follows from the attributes, as JSON. -/
def Computed.toJson (computed : Computed) : Json :=
  .object [
    ("is_rfc1918", computed.isPrivate),
    ("address_count", .orNull (computed.addressCount.map .nat)),
    ("uses_dedicated_tenancy", computed.usesDedicatedTenancy),
    ("has_ipv6", computed.hasIpv6)]

end Vpc

instance : Resource Vpc where
  typeName := "aws_vpc"
  outputs := ["id", "arn", "cidr_block", "default_security_group_id",
    "default_route_table_id", "main_route_table_id", "owner_id"]
  record := Vpc.record
  check vpc := ⟨vpc.violations, vpc.warnings⟩
  computed vpc := vpc.computed.toJson

end InfraSynth.Aws

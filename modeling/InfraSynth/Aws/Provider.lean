import InfraSynth.Declaration.Provider
import InfraSynth.Error
import InfraSynth.Pattern.Basic

/-!
# Regions and the provider of the resources

A region is named by an area of two letters, an optional partition, a direction
and a digit, as in `us-east-1` or `us-gov-west-1`.  The provider is set up with a
region, a profile, and tags that it applies to every resource.
-/

namespace InfraSynth.Aws

namespace Region

/-- The names of regions. -/
def pattern : Pattern :=
  .sequence [
    .times 2 (.set .lower),
    .optional (.alt (.literal "-gov") (.cat (.literal "-iso") (.optional (.set .lower)))),
    .literal "-",
    .atLeastOnce (.set .lower),
    .literal "-",
    .set .digit]

/-- Turn down a text that names no region. -/
def check (region : String) : Except Error Unit :=
  if pattern.accepts region then .ok () else .error (.settings (.invalidRegion region))

end Region

/-- The provider with given settings. -/
def provider (region : String) (profile : Option String) (defaultTags : TextMap) : Provider where
  name := "aws"
  source := "hashicorp/aws"
  version := "~> 5.0"
  settings := Block.empty
    |>.attr "region" region
    |>.optText "profile" profile
    |>.optNested "default_tags"
      (if defaultTags.isEmpty then none else some (Block.empty.map "tags" defaultTags))

end InfraSynth.Aws

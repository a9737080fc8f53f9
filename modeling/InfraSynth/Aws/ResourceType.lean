import InfraSynth.Aws.Bucket
import InfraSynth.Aws.IamRole
import InfraSynth.Aws.MetricAlarm.Check
import InfraSynth.Aws.SecurityGroup
import InfraSynth.Aws.Subnet
import InfraSynth.Aws.TargetGroup.Check
import InfraSynth.Aws.WebAcl.Basic

/-!
# Types of resources

The nine types of resources, and for each the type of its attributes.  What can
be done with the attributes of one type can so be said of all of them at once.
-/

namespace InfraSynth.Aws

/-- A type of resources. -/
inductive ResourceType
  | iamRole
  | iamPolicy
  | targetGroup
  | webAcl
  | metricAlarm
  | bucket
  | vpc
  | subnet
  | securityGroup
  deriving DecidableEq, Repr

namespace ResourceType

/-- All types. -/
def all : List ResourceType := [
  iamRole, iamPolicy, targetGroup, webAcl, metricAlarm, bucket, vpc, subnet, securityGroup]

/-- The attributes of a type of resources. -/
abbrev Attributes : ResourceType → Type
  | iamRole => IamRole
  | iamPolicy => IamPolicy
  | targetGroup => TargetGroup
  | webAcl => WebAcl
  | metricAlarm => MetricAlarm
  | bucket => Bucket
  | vpc => Vpc
  | subnet => Subnet
  | securityGroup => SecurityGroup

instance : (type : ResourceType) → Resource type.Attributes
  | iamRole => inferInstanceAs (Resource IamRole)
  | iamPolicy => inferInstanceAs (Resource IamPolicy)
  | targetGroup => inferInstanceAs (Resource TargetGroup)
  | webAcl => inferInstanceAs (Resource WebAcl)
  | metricAlarm => inferInstanceAs (Resource MetricAlarm)
  | bucket => inferInstanceAs (Resource Bucket)
  | vpc => inferInstanceAs (Resource Vpc)
  | subnet => inferInstanceAs (Resource Subnet)
  | securityGroup => inferInstanceAs (Resource SecurityGroup)

instance : (type : ResourceType) → DecidableEq type.Attributes
  | iamRole => inferInstanceAs (DecidableEq IamRole)
  | iamPolicy => inferInstanceAs (DecidableEq IamPolicy)
  | targetGroup => inferInstanceAs (DecidableEq TargetGroup)
  | webAcl => inferInstanceAs (DecidableEq WebAcl)
  | metricAlarm => inferInstanceAs (DecidableEq MetricAlarm)
  | bucket => inferInstanceAs (DecidableEq Bucket)
  | vpc => inferInstanceAs (DecidableEq Vpc)
  | subnet => inferInstanceAs (DecidableEq Subnet)
  | securityGroup => inferInstanceAs (DecidableEq SecurityGroup)

/-- The name of a type in a configuration. -/
def name (type : ResourceType) : String :=
  Resource.typeName type.Attributes

/-- The attributes of a type that other resources may refer to. -/
def outputs (type : ResourceType) : List String :=
  Resource.outputs type.Attributes

/-- The type with a name. -/
def ofName? (name : String) : Option ResourceType :=
  all.find? fun type => type.name = name

end ResourceType

end InfraSynth.Aws

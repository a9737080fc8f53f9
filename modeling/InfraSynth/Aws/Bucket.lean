import InfraSynth.Aws.Arn
import InfraSynth.Aws.Cidr
import InfraSynth.Aws.Tags
import InfraSynth.Resource

/-!
# `aws_s3_bucket`

A bucket for objects.  Its name is part of addresses on the internet, so it
follows the rules for host names and a few of its own.
-/

namespace InfraSynth.Aws

/-- The attributes of a bucket. -/
structure Bucket where
  name : Option String
  nameStart : Option String
  forceDestroy : Bool
  objectLock : Bool
  tags : TextMap
  deriving DecidableEq

namespace Bucket

/-- The bucket with a name and every other attribute at its default. -/
def ofName (name : String) : Bucket where
  name := some name
  nameStart := none
  forceDestroy := false
  objectLock := false
  tags := .empty

/-- How the attributes are written. -/
def record : JsonRecord Bucket where
  name := "S3BucketAttributes"
  types := _
  fields :=
    .cons (.optional "bucket" .text) <|
    .cons (.optional "bucket_prefix" .text) <|
    .cons (.defaulted "force_destroy" .flag false) <|
    .cons (.defaulted "object_lock_enabled" .flag false) <|
    .cons (.textMap "tags") .nil
  build := fun (name, nameStart, forceDestroy, objectLock, tags, ()) =>
    { name, nameStart, forceDestroy, objectLock, tags }
  row bucket := (bucket.name, bucket.nameStart, bucket.forceDestroy, bucket.objectLock,
    bucket.tags, ())

/-- The characters at the ends of a name. -/
def outerChars : CharSet := .union .lower .asciiDigit

/-- The characters inside a name. -/
def innerChars : CharSet := .union outerChars (.ofText ".-")

/-- Whole names. -/
def namePattern : Pattern :=
  .sequence [.set outerChars, .many (.set innerChars), .set outerChars]

/-- The beginnings of names. -/
def startPattern : Pattern :=
  .sequence [.set outerChars, .many (.set innerChars)]

/-- What is wrong with a name or the beginning of one, unless it is an
interpolation. -/
def checkName (field name : String) (low high : Nat) (pattern : Pattern) : List Violation :=
  if Interpolation.isInterpolation name then []
  else
    Check.length field name low high ++
    Check.format field name pattern "lowercase letters, digits, dots and hyphens" ++
    Check.that (!Text.contains name "..") .format field "must not contain '..'" ++
    Check.that (!Text.startsWith name "xn--") .format field
      "must not start with the reserved prefix 'xn--'" ++
    Check.that (Cidr.address? name).isNone .format field
      "must not be formatted as an IP address" ++
    Check.that (!Text.endsWith name "-s3alias" && !Text.endsWith name "--ol-s3") .format field
      "must not use a reserved suffix"

/-- What is wrong with the attributes. -/
def violations (bucket : Bucket) : List Violation :=
  checkNameChoice "bucket" bucket.name "bucket_prefix" bucket.nameStart ++
  bucket.name.toList.flatMap (fun name => checkName "bucket" name 3 63 namePattern) ++
  bucket.nameStart.toList.flatMap (fun start =>
    checkName "bucket_prefix" start 1 37 startPattern) ++
  checkTags "tags" bucket.tags

/-- Destroying a bucket together with its objects is worth a warning. -/
def warnings (bucket : Bucket) : List String :=
  if bucket.forceDestroy then ["force_destroy deletes every object when the bucket is destroyed"]
  else []

/-- What follows from the attributes of a bucket. -/
structure Computed where
  isDnsCompatible : Bool
  hasObjectLock : Bool
  hasGeneratedName : Bool
  deriving DecidableEq

/-- What follows from the attributes. -/
def computed (bucket : Bucket) : Computed where
  isDnsCompatible := (bucket.name.or bucket.nameStart).all fun name => !Text.contains name "."
  hasObjectLock := bucket.objectLock
  hasGeneratedName := bucket.name.isNone

/-- What follows from the attributes, as JSON. -/
def Computed.toJson (computed : Computed) : Json :=
  .object [
    ("is_dns_compatible", computed.isDnsCompatible),
    ("has_object_lock", computed.hasObjectLock),
    ("has_generated_name", computed.hasGeneratedName)]

end Bucket

instance : Resource Bucket where
  typeName := "aws_s3_bucket"
  outputs := ["id", "arn", "bucket", "bucket_domain_name", "bucket_regional_domain_name",
    "hosted_zone_id", "region"]
  record := Bucket.record
  check bucket := ⟨bucket.violations, bucket.warnings⟩
  computed bucket := bucket.computed.toJson

end InfraSynth.Aws

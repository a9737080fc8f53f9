import InfraSynth.Check.Basic
import InfraSynth.Collection.SortedMap

/-!
# Tags

Resources carry at most 50 tags.  Keys have 1 to 128 characters, values up to
256, and keys that begin with `aws:` are reserved.
-/

namespace InfraSynth.Aws

/-- How many tags a resource may have. -/
def maxTags : Nat := 50

/-- What is wrong with one tag. -/
def checkTag (field key value : String) : List Violation :=
  let path := s!"{field}.{key}"
  Check.length path key 1 128 ++
  Check.length path value 0 256 ++
  Check.that (!Text.startsWith (Text.lowerAscii key) "aws:") .format path
    "tag keys may not use the reserved 'aws:' prefix"

/-- What is wrong with the tags of a resource. -/
def checkTags (field : String) (tags : TextMap) : List Violation :=
  Check.count field tags.size 0 (some maxTags) ++
  tags.entries.flatMap fun (key, value) => checkTag field key value

end InfraSynth.Aws

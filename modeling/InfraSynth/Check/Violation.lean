/-!
# Violations

Checks of attributes do not stop at the first problem.  Each problem is a
`Violation`, which names the rule that was broken and the field it concerns, and
a resource with any violation is rejected with all of them.

The path of a field names the fields and the indices that lead to it, as in
`rule[2].statement.and_statement`.
-/

namespace InfraSynth

namespace Path

/-- The path of a field below another one; the empty path is the top. -/
def field (parent child : String) : String :=
  if parent.isEmpty then child else s!"{parent}.{child}"

/-- The path of an item of a list. -/
def index (parent : String) (i : Nat) : String :=
  s!"{parent}[{i}]"

/-- Concatenate what a check says about each item of a list and its path. -/
def flatMapItems {α β : Type} (parent : String) (items : List α)
    (check : String → α → List β) : List β :=
  items.zipIdx.flatMap fun (item, i) => check (index parent i) item

end Path

/-- The kinds of rules. -/
inductive Rule
  | required
  | format
  | range
  | length
  | enumeration
  | mutuallyExclusive
  | exactlyOne
  | mutuallyDependent
  | conditional
  | unique
  | count
  deriving DecidableEq, Repr

namespace Rule

/-- All kinds in order. -/
def all : List Rule := [
  required, format, range, length, enumeration, mutuallyExclusive, exactlyOne,
  mutuallyDependent, conditional, unique, count]

/-- The name of a kind in messages. -/
def name : Rule → String
  | required => "required"
  | format => "format"
  | range => "range"
  | length => "length"
  | enumeration => "enumeration"
  | mutuallyExclusive => "mutually_exclusive"
  | exactlyOne => "exactly_one"
  | mutuallyDependent => "mutually_dependent"
  | conditional => "conditional"
  | unique => "unique"
  | count => "count"

end Rule

/-- A rule that was broken. -/
structure Violation where
  rule : Rule
  /-- The path of the field, or of several fields. -/
  field : String
  message : String
  deriving DecidableEq, Repr

/-- A violation in words. -/
def Violation.describe (violation : Violation) : String :=
  s!"[{violation.rule.name}] {violation.field}: {violation.message}"

/-- What checking a resource finds: violations, which reject it, and warnings,
which do not. -/
structure Report where
  violations : List Violation
  warnings : List String
  deriving DecidableEq, Repr

/-- Whether nothing rejects the resource. -/
def Report.isAccepted (report : Report) : Bool :=
  report.violations.isEmpty

/-- The violations for which a resource of some type is rejected. -/
structure Rejection where
  resourceType : String
  violations : List Violation
  deriving DecidableEq, Repr

namespace Rejection

/-- The violations in words, one on a line. -/
def message (rejection : Rejection) : String :=
  String.join (s!"Validation failed for {rejection.resourceType}" ::
    rejection.violations.map fun violation => s!"\n  - {violation.describe}")

/-- Whether some violation broke a rule of the given kind. -/
def hasRule (rejection : Rejection) (rule : Rule) : Bool :=
  rejection.violations.any (·.rule = rule)

/-- Whether some violation concerns the field. -/
def hasField (rejection : Rejection) (field : String) : Bool :=
  rejection.violations.any (·.field = field)

end Rejection

end InfraSynth

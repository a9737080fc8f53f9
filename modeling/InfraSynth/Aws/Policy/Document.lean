import InfraSynth.Decode.Value
import InfraSynth.Json.Printer
import InfraSynth.Json.Reader
import InfraSynth.Text.Affix

/-!
# Policy documents

A policy is kept as the JSON value that was given, so that its keys and
conditions come out as they went in.  It may be given as an object or as a text
that holds JSON, and is written as a text.

Statements are a list, or a single object that stands for a list of one.  What
the document grants is read off its statements: the actions they name, and the
principals that may act.
-/

namespace InfraSynth.Aws

/-- A policy document. -/
structure PolicyDocument where
  value : Json
  deriving DecidableEq

namespace PolicyDocument

/-- The texts of a value that is a text or a list of texts. -/
def textOrList : Option Json → List String
  | some (.string text) => [text]
  | some (.array items) => items.filterMap Json.text?
  | _ => []

/-- The version of the policy language. -/
def version? (policy : PolicyDocument) : Option String :=
  (policy.value.get? "Version").bind Json.text?

/-- The statements. -/
def statements (policy : PolicyDocument) : List (Entries Json) :=
  match policy.value.get? "Statement" with
  | some (.array items) => items.filterMap Json.entries?
  | some (.object statement) => [statement]
  | _ => []

/-- The actions that a statement names. -/
def actionsOf (statement : Entries Json) : List String :=
  textOrList (Entries.get? statement "Action")

/-- The effect of a statement. -/
def effectOf (statement : Entries Json) : Option String :=
  (Entries.get? statement "Effect").bind Json.text?

/-- The principals of a kind that a statement names.  A principal that is a text
stands for accounts. -/
def principalsOf (kind : String) (statement : Entries Json) : List String :=
  match Entries.get? statement "Principal" with
  | some (.object principals) => textOrList (Entries.get? principals kind)
  | some (.string any) => if kind = "AWS" then [any] else []
  | _ => []

/-- The actions that the statements name. -/
def actions (policy : PolicyDocument) : List String :=
  policy.statements.flatMap actionsOf

/-- The principals of a kind that the statements name. -/
def principals (policy : PolicyDocument) (kind : String) : List String :=
  policy.statements.flatMap (principalsOf kind)

/-- The services that may act. -/
def services (policy : PolicyDocument) : List String :=
  policy.principals "Service"

/-- The accounts that may act. -/
def accounts (policy : PolicyDocument) : List String :=
  policy.principals "AWS"

/-- The identity providers whose users may act. -/
def federations (policy : PolicyDocument) : List String :=
  policy.principals "Federated"

/-- Whether an action stands for all actions, or for all of one service. -/
def isWildcard (action : String) : Bool :=
  action = "*" || Text.endsWith action ":*"

/-- Whether a statement that allows something names a wildcard. -/
def allowsWildcard (policy : PolicyDocument) : Bool :=
  (policy.statements.filter (effectOf · = some "Allow")).any fun statement =>
    (actionsOf statement).any isWildcard

/-- The beginnings of verbs that only read. -/
def readVerbs : List String :=
  ["Get", "List", "Describe", "Head", "View", "Query", "Scan", "Select"]

/-- Whether the verb of an action begins like one that only reads. -/
def isReadAction (action : String) : Bool :=
  match Text.splitAt? ':' action with
  | some (_, verb) => readVerbs.any (Text.startsWith verb)
  | none => false

/-- Whether actions are named, and all of them only read. -/
def isReadOnly (policy : PolicyDocument) : Bool :=
  !policy.actions.isEmpty && policy.actions.all isReadAction

/-- Policies are read from objects and from texts that hold JSON, and written as
texts. -/
def codec : JsonCodec PolicyDocument where
  read
    | .string text =>
      match Json.parse text with
      | .ok value => .ok ⟨value⟩
      | .error fault => .error (.policyText (fault.describe text))
    | .object entries => .ok ⟨.object entries⟩
    | _ => .error .policyKind
  write policy := .string policy.value.compact

end PolicyDocument

end InfraSynth.Aws

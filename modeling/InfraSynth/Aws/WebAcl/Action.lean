import InfraSynth.Check.Basic
import InfraSynth.Decode.Value

/-!
# Actions of web access rules

What happens to a request that a rule matches, to a request that no rule matches,
and to the actions of rules in a group that is used as a whole.  Exactly one
action must be chosen.
-/

namespace InfraSynth.Aws.WebAcl

/-- A block without arguments, which is present or absent. -/
structure EmptyBlock where
  deriving DecidableEq

/-- How an empty block is written. -/
def EmptyBlock.record : JsonRecord EmptyBlock where
  name := "EmptyBlock"
  types := _
  fields := .nil
  build _ := {}
  row _ := ()

/-- The answer to a request that is blocked. -/
structure CustomResponse where
  responseCode : UInt16
  bodyKey : Option String
  deriving DecidableEq

/-- How an answer is written. -/
def CustomResponse.record : JsonRecord CustomResponse where
  name := "CustomResponse"
  types := _
  fields :=
    .cons (.required "response_code" .uint16) <|
    .cons (.optional "custom_response_body_key" .text) .nil
  build := fun (responseCode, bodyKey, ()) => { responseCode, bodyKey }
  row response := (response.responseCode, response.bodyKey, ())

/-- Blocking a request, with an answer or without. -/
structure BlockAction where
  customResponse : Option CustomResponse
  deriving DecidableEq

namespace BlockAction

/-- How the action is written. -/
def record : JsonRecord BlockAction where
  name := "BlockAction"
  types := _
  fields := .cons (.optionalLast "custom_response" CustomResponse.record.codec) .nil
  build := fun (customResponse, ()) => { customResponse }
  row action := (action.customResponse, ())

/-- What is wrong with the action. -/
def check (path : String) (action : BlockAction) : List Violation :=
  action.customResponse.toList.flatMap fun response =>
    Check.range (Path.field path "custom_response.response_code") response.responseCode.toNat
      200 599

end BlockAction

/-- What a rule does with the requests that it matches. -/
structure RuleAction where
  allow : Option EmptyBlock
  block : Option BlockAction
  count : Option EmptyBlock
  captcha : Option EmptyBlock
  challenge : Option EmptyBlock
  deriving DecidableEq

namespace RuleAction

/-- How the action is written. -/
def record : JsonRecord RuleAction where
  name := "RuleAction"
  types := _
  fields :=
    .cons (.optionalLast "allow" EmptyBlock.record.codec) <|
    .cons (.optionalLast "block" BlockAction.record.codec) <|
    .cons (.optionalLast "count" EmptyBlock.record.codec) <|
    .cons (.optionalLast "captcha" EmptyBlock.record.codec) <|
    .cons (.optionalLast "challenge" EmptyBlock.record.codec) .nil
  build := fun (allow, block, count, captcha, challenge, ()) =>
    { allow, block, count, captcha, challenge }
  row action := (action.allow, action.block, action.count, action.captcha, action.challenge, ())

/-- What is wrong with the action. -/
def check (path : String) (action : RuleAction) : List Violation :=
  Check.exactlyOneOf [
    (Path.field path "allow", action.allow.isSome),
    (Path.field path "block", action.block.isSome),
    (Path.field path "count", action.count.isSome),
    (Path.field path "captcha", action.captcha.isSome),
    (Path.field path "challenge", action.challenge.isSome)] ++
  action.block.toList.flatMap (BlockAction.check (Path.field path "block"))

end RuleAction

/-- Another action for one rule of a group. -/
structure RuleOverride where
  name : String
  action : RuleAction
  deriving DecidableEq

namespace RuleOverride

/-- How an override is written. -/
def record : JsonRecord RuleOverride where
  name := "RuleActionOverride"
  types := _
  fields :=
    .cons (.required "name" .text) <|
    .cons (.required "action_to_use" RuleAction.record.codec) .nil
  build := fun (name, action, ()) => { name, action }
  row override := (override.name, override.action, ())

/-- What is wrong with an override. -/
def check (path : String) (override : RuleOverride) : List Violation :=
  Check.notBlank (Path.field path "name") override.name ++
  override.action.check (Path.field path "action_to_use")

/-- What is wrong with the overrides of a group. -/
def checkAll (path : String) (overrides : List RuleOverride) : List Violation :=
  let field := Path.field path "rule_action_override"
  Check.count field overrides.length 0 (some 100) ++
  Check.unique s!"{field}.name" (overrides.map (·.name)) ++
  Path.flatMapItems field overrides check

end RuleOverride

/-- What happens to requests that no rule matches. -/
structure DefaultAction where
  allow : Option EmptyBlock
  block : Option BlockAction
  deriving DecidableEq

namespace DefaultAction

/-- How the action is written. -/
def record : JsonRecord DefaultAction where
  name := "DefaultAction"
  types := _
  fields :=
    .cons (.optionalLast "allow" EmptyBlock.record.codec) <|
    .cons (.optionalLast "block" BlockAction.record.codec) .nil
  build := fun (allow, block, ()) => { allow, block }
  row action := (action.allow, action.block, ())

/-- What is wrong with the action. -/
def check (action : DefaultAction) : List Violation :=
  Check.exactlyOneOf [
    ("default_action.allow", action.allow.isSome),
    ("default_action.block", action.block.isSome)] ++
  action.block.toList.flatMap (BlockAction.check "default_action.block")

end DefaultAction

/-- Whether the actions of a group are kept, or its matches only counted. -/
structure OverrideAction where
  keep : Option EmptyBlock
  count : Option EmptyBlock
  deriving DecidableEq

namespace OverrideAction

/-- How the action is written. -/
def record : JsonRecord OverrideAction where
  name := "OverrideAction"
  types := _
  fields :=
    .cons (.optionalLast "none" EmptyBlock.record.codec) <|
    .cons (.optionalLast "count" EmptyBlock.record.codec) .nil
  build := fun (keep, count, ()) => { keep, count }
  row action := (action.keep, action.count, ())

/-- What is wrong with the action. -/
def check (path : String) (action : OverrideAction) : List Violation :=
  Check.exactlyOneOf [
    (Path.field path "none", action.keep.isSome),
    (Path.field path "count", action.count.isSome)]

end OverrideAction

end InfraSynth.Aws.WebAcl

import InfraSynth.Aws.WebAcl.Action

/-!
# What a statement inspects

The part of a request that a statement looks at, and the transformations that
are applied to it before.
-/

namespace InfraSynth.Aws.WebAcl

/-- A part of a request that is picked out by name. -/
structure NamedField where
  name : String
  deriving DecidableEq

/-- How a named part is written. -/
def NamedField.record : JsonRecord NamedField where
  name := "NamedField"
  types := _
  fields := .cons (.required "name" .text) .nil
  build := fun (name, ()) => { name }
  row field := (field.name, ())

/-- The part of a request that is inspected. -/
structure FieldToMatch where
  allQueryArguments : Option EmptyBlock
  body : Option EmptyBlock
  method : Option EmptyBlock
  queryString : Option EmptyBlock
  singleHeader : Option NamedField
  singleQueryArgument : Option NamedField
  uriPath : Option EmptyBlock
  deriving DecidableEq

namespace FieldToMatch

/-- How the part is written. -/
def record : JsonRecord FieldToMatch where
  name := "FieldToMatch"
  types := _
  fields :=
    .cons (.optionalLast "all_query_arguments" EmptyBlock.record.codec) <|
    .cons (.optionalLast "body" EmptyBlock.record.codec) <|
    .cons (.optionalLast "method" EmptyBlock.record.codec) <|
    .cons (.optionalLast "query_string" EmptyBlock.record.codec) <|
    .cons (.optionalLast "single_header" NamedField.record.codec) <|
    .cons (.optionalLast "single_query_argument" NamedField.record.codec) <|
    .cons (.optionalLast "uri_path" EmptyBlock.record.codec) .nil
  build := fun (allQueryArguments, body, method, queryString, singleHeader, singleQueryArgument,
      uriPath, ()) =>
    { allQueryArguments, body, method, queryString, singleHeader, singleQueryArgument, uriPath }
  row field := (field.allQueryArguments, field.body, field.method, field.queryString,
    field.singleHeader, field.singleQueryArgument, field.uriPath, ())

/-- The parts, and whether each is inspected. -/
def presence (field : FieldToMatch) : Check.Group := [
  ("all_query_arguments", field.allQueryArguments.isSome),
  ("body", field.body.isSome),
  ("method", field.method.isSome),
  ("query_string", field.queryString.isSome),
  ("single_header", field.singleHeader.isSome),
  ("single_query_argument", field.singleQueryArgument.isSome),
  ("uri_path", field.uriPath.isSome)]

/-- What is wrong with a named part. -/
def checkNamed (path name : String) (field : Option NamedField) : List Violation :=
  field.toList.flatMap fun field =>
    Check.length (Path.field path s!"{name}.name") field.name 1 64

/-- What is wrong with the part. -/
def check (parent : String) (field : FieldToMatch) : List Violation :=
  let path := Path.field parent "field_to_match"
  Check.exactlyOneOf (field.presence.map fun (name, present) => (Path.field path name, present)) ++
  checkNamed path "single_header" field.singleHeader ++
  checkNamed path "single_query_argument" field.singleQueryArgument

end FieldToMatch

/-- A transformation that is applied before the inspection. -/
structure Transformation where
  priority : UInt32
  type : String
  deriving DecidableEq

namespace Transformation

/-- How a transformation is written. -/
def record : JsonRecord Transformation where
  name := "TextTransformation"
  types := _
  fields :=
    .cons (.required "priority" .uint32) <|
    .cons (.required "type" .text) .nil
  build := fun (priority, type, ()) => { priority, type }
  row transformation := (transformation.priority, transformation.type, ())

/-- The types of transformations. -/
def knownTypes : List String := [
  "NONE", "COMPRESS_WHITE_SPACE", "HTML_ENTITY_DECODE", "LOWERCASE", "CMD_LINE", "URL_DECODE",
  "BASE64_DECODE", "HEX_DECODE", "MD5", "REPLACE_COMMENTS", "ESCAPE_SEQ_DECODE",
  "SQL_HEX_DECODE", "CSS_DECODE", "JS_DECODE", "NORMALIZE_PATH", "NORMALIZE_PATH_WIN",
  "REMOVE_NULLS", "REPLACE_NULLS", "BASE64_DECODE_EXT", "URL_DECODE_UNI", "UTF8_TO_UNICODE"]

/-- What is wrong with a list of transformations. -/
def checkAll (parent : String) (transformations : List Transformation) : List Violation :=
  let field := Path.field parent "text_transformation"
  Check.count field transformations.length 1 (some 10) ++
  Check.unique s!"{field}.priority" (transformations.map fun t => toString t.priority) ++
  Path.flatMapItems field transformations fun path transformation =>
    Check.oneOf s!"{path}.type" transformation.type knownTypes

/-- The capacity that transformations take, 10 units each unless nothing is
transformed. -/
def cost (transformations : List Transformation) : UInt32 :=
  10 * .ofNat (transformations.filter (·.type ≠ "NONE")).length

end Transformation

end InfraSynth.Aws.WebAcl

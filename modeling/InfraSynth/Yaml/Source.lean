import InfraSynth.Decode.Source
import InfraSynth.Error
import InfraSynth.Yaml.Content

/-!
# Decoding YAML

Trees and contents as sources.  Where a text is expected, a tree gives the text of
any scalar as it is written, so that a number or a flag may stand there without
quotes; a content gives only what is a text.  What is wrong with a text is not
told apart.
-/

namespace InfraSynth.Yaml

/-- The value, or the error if there is none. -/
def orError {α : Type} (value : Option α) : Except Error α :=
  value.elim (.error .yaml) .ok

/-! ## Trees -/

/-- Whether a tree stands for an absent value.  A tag that says so has to be right; with
any other tag, the mark alone among them, a value is given. -/
def Tree.isAbsent? : Tree → Option Bool
  | .scalar ⟨.plain, none, text⟩ => some (text.isEmpty || isNull text)
  | .scalar ⟨.plain, some tag, text⟩ =>
    if tag ≠ commonTag "null" then some false
    else if isNull text then some true
    else none
  | _ => some false

/-- The flag that a tree stands for. -/
def Tree.flag? : Tree → Option Bool
  | .scalar ⟨style, tag, text⟩ =>
    if style = .plain ∨ (style = .literal ∧ tag = some (commonTag "bool")) then Yaml.flag? text
    else none
  | _ => none

/-- The items of a tree; nothing stands for none. -/
def Tree.items? : Tree → Option (List Tree)
  | .sequence _ items => some items
  | .scalar leaf => if leaf.isEmpty then some [] else none
  | .mapping .. => none

/-- The entries of a tree; nothing stands for none. -/
def Tree.entries? : Tree → Option (List (String × Tree))
  | .mapping _ entries => entries.mapM fun (key, value) => do some (← key.text?, value)
  | .scalar leaf => if leaf.isEmpty then some [] else none
  | .sequence .. => none

instance : Source Tree Error where
  failure _ := .yaml
  surplus _ := .yaml
  isAbsent tree := orError tree.isAbsent?
  text tree := orError tree.text?
  flag tree := orError tree.flag?
  json tree := orError tree.toJson?
  list tree := orError (tree.items?.map .complete)
  entries tree := orError (tree.entries?.map .complete)
  record _ _ tree := orError (tree.entries?.map fun entries => .named (.complete entries))

/-! ## Contents -/

/-- The flag that a content is. -/
def Content.flag? : Content → Option Bool
  | .atom (.flag value) => some value
  | _ => none

/-- The items that a content is. -/
def Content.items? : Content → Option (List Content)
  | .list items => some items
  | _ => none

/-- The entries that a content is, each key being turned into a text. -/
def Content.entries? (key : Content → Option String) :
    Content → Option (List (String × Content))
  | .map entries => entries.mapM fun (k, value) => do some (← key k, value)
  | _ => none

/-- The name of the field that a content stands for, which may be given by its
number. -/
def Content.fieldName? (fields : List String) : Content → Option String
  | .atom (.natural number) => fields[number]?
  | content => content.text?

/-- The fields of a record. -/
def Content.fields? (fields : List String) (content : Content) :
    Option (RecordSource Content Error) :=
  match content with
  | .list items => some (.positional (.complete items))
  | content => do
    let entries ← content.entries? (fieldName? fields)
    some (.named (.complete entries))

instance : Source Content Error where
  failure _ := .yaml
  surplus _ := .yaml
  isAbsent content := .ok (content matches .atom .null)
  text content := orError content.text?
  flag content := orError content.flag?
  json content := orError content.toJson?
  list content := orError (content.items?.map .complete)
  entries content := orError ((content.entries? Content.text?).map .complete)
  record _ fields content := orError (content.fields? fields)

end InfraSynth.Yaml

import InfraSynth.Yaml.Layout

/-!
# Nodes

What the tokens of a text say: a scalar, a sequence or a mapping, each of which
may have an anchor, and aliases for what an anchor was given to.  Where nothing
stands in the place of a node, an empty scalar is meant.

## Strategy

Every function takes what it stands for from the front of the tokens, by looking
at the first of them.  A sequence without indentation of its own may stand as a
key or value; it ends at the first token that is not a hyphen.
-/

namespace InfraSynth.Yaml

/-- A node whose anchors and aliases are of a given type. -/
inductive Node (ν : Type)
  | alias (name : ν)
  | scalar (anchor : Option ν) (scalar : Scalar)
  | sequence (anchor : Option ν) (tag : Option Tag) (items : List (Node ν))
  | mapping (anchor : Option ν) (tag : Option Tag) (entries : List (Node ν × Node ν))

/-- A node that is written out. -/
abbrev NamedNode := Node String

/-- What is said about a node before it. -/
structure Properties where
  anchor : Option String
  tag : Option Tag

namespace Properties

/-- Nothing is said. -/
def none : Properties :=
  ⟨.none, .none⟩

/-- The empty scalar with these properties. -/
def emptyNode (properties : Properties) : NamedNode :=
  .scalar properties.anchor (.empty properties.tag)

/-- A scalar with these properties. -/
def scalarNode (properties : Properties) (style : Style) (text : String) : NamedNode :=
  .scalar properties.anchor ⟨style, properties.tag, text⟩

end Properties

/-- Where a node stands. -/
inductive Place
  /-- Between brackets. -/
  | bracketed
  /-- As an item or a document. -/
  | block
  /-- As a key or value, which a sequence may be without indentation. -/
  | entry
  deriving DecidableEq

/-- A function that takes something from the front of the tokens. -/
abbrev TokenReader (α : Type) := List Token → Option (α × List Token)

/-! ## Properties -/

/-- The anchor and the tag of a node, in either order. -/
def properties? (handles : TagHandles) : TokenReader Properties
  | .anchor anchor :: .tag name :: rest | .tag name :: .anchor anchor :: rest => do
    some (⟨anchor, ← handles.resolve? name⟩, rest)
  | .anchor anchor :: rest => some (⟨anchor, none⟩, rest)
  | .tag name :: rest => do some (⟨none, ← handles.resolve? name⟩, rest)
  | rest => some (.none, rest)

/-! ## Where nothing stands -/

/-- Whether there is nothing after a hyphen. -/
def endsItem : List Token → Bool
  | .item :: _ | .dedent :: _ => true
  | _ => false

/-- Whether there is no key or value. -/
def endsEntry : List Token → Bool
  | .key :: _ | .value :: _ | .dedent :: _ => true
  | _ => false

/-- Whether there is nothing after a hyphen of a sequence without indentation. -/
def endsLooseItem (tokens : List Token) : Bool :=
  tokens.head? = some .item || endsEntry tokens

/-- Whether there is no value between brackets. -/
def endsBracketed (bracket : Bracket) : List Token → Bool
  | .comma :: _ => true
  | .closing other :: _ => other = bracket
  | _ => false

/-- Whether there is no key between brackets. -/
def endsBracketedKey (bracket : Bracket) (tokens : List Token) : Bool :=
  tokens.head? = some .value || endsBracketed bracket tokens

/-- Read a node, if there is one. -/
def orEmpty (ends : List Token → Bool) (node : TokenReader NamedNode) : TokenReader NamedNode :=
  fun tokens => if ends tokens then some (Properties.none.emptyNode, tokens) else node tokens

/-- The rest after the comma before an item between brackets, which the first
item does not have. -/
def afterComma? (first : Bool) : List Token → Option (List Token)
  | .comma :: rest => if first then some (.comma :: rest) else some rest
  | rest => if first then some rest else none

/-! ## Nodes -/

mutual

/-- A node; the number bounds the steps, here and below. -/
def node? (handles : TagHandles) (place : Place) : Nat → TokenReader NamedNode
  | 0, _ => none
  | _ + 1, .alias name :: rest => some (.alias name, rest)
  | fuel + 1, tokens => do
    let (properties, rest) ← properties? handles tokens
    let stated := properties.anchor.isSome || properties.tag.isSome
    let sequence (result : Option (List NamedNode × List Token)) :=
      result.map fun (items, rest) => (.sequence properties.anchor properties.tag items, rest)
    let mapping (result : Option (List (NamedNode × NamedNode) × List Token)) :=
      result.map fun (entries, rest) => (.mapping properties.anchor properties.tag entries, rest)
    match rest, place with
    | .item :: _, .entry => sequence (looseItems? handles fuel rest)
    | .scalar style text :: rest, _ => some (properties.scalarNode style text, rest)
    | .opening .square :: rest, _ => sequence (bracketedItems? handles true fuel rest)
    | .opening .curly :: rest, _ => mapping (bracketedEntries? handles true fuel rest)
    | .sequence :: rest, .block | .sequence :: rest, .entry => sequence (items? handles fuel rest)
    | .mapping :: rest, .block | .mapping :: rest, .entry => mapping (entries? handles fuel rest)
    | rest, _ => if stated then some (properties.emptyNode, rest) else none

/-- The items of a sequence with its end. -/
def items? (handles : TagHandles) : Nat → TokenReader (List NamedNode)
  | 0, _ => none
  | fuel + 1, .item :: rest => do
    let (item, rest) ← orEmpty endsItem (node? handles .block fuel) rest
    let (items, rest) ← items? handles fuel rest
    some (item :: items, rest)
  | _ + 1, .dedent :: rest => some ([], rest)
  | _ + 1, _ => none

/-- The items of a sequence without indentation. -/
def looseItems? (handles : TagHandles) : Nat → TokenReader (List NamedNode)
  | 0, _ => none
  | fuel + 1, .item :: rest => do
    let (item, rest) ← orEmpty endsLooseItem (node? handles .block fuel) rest
    let (items, rest) ← looseItems? handles fuel rest
    some (item :: items, rest)
  | _ + 1, rest => some ([], rest)

/-- The entries of a mapping with its end. -/
def entries? (handles : TagHandles) : Nat → TokenReader (List (NamedNode × NamedNode))
  | 0, _ => none
  | fuel + 1, .key :: rest => do
    let (key, rest) ← orEmpty endsEntry (node? handles .entry fuel) rest
    let (value, rest) ← match rest with
      | .value :: rest => orEmpty endsEntry (node? handles .entry fuel) rest
      | rest => some (Properties.none.emptyNode, rest)
    let (entries, rest) ← entries? handles fuel rest
    some ((key, value) :: entries, rest)
  | _ + 1, .dedent :: rest => some ([], rest)
  | _ + 1, _ => none

/-- The items between brackets with the closing one; `first` says that none has
been read.  An item that is a key stands for a mapping with one entry. -/
def bracketedItems? (handles : TagHandles) (first : Bool) : Nat → TokenReader (List NamedNode)
  | 0, _ => none
  | _ + 1, .closing .square :: rest => some ([], rest)
  | fuel + 1, tokens => do
    match ← afterComma? first tokens with
    | .closing .square :: rest => some ([], rest)
    | .key :: rest => do
      let (key, rest) ←
        if endsBracketedKey .square rest then some (Properties.none.emptyNode, rest.drop 1)
        else node? handles .bracketed fuel rest
      let (value, rest) ← bracketedValue? handles .square fuel rest
      let (items, rest) ← bracketedItems? handles false fuel rest
      some (.mapping none none [(key, value)] :: items, rest)
    | rest => do
      let (item, rest) ← node? handles .bracketed fuel rest
      let (items, rest) ← bracketedItems? handles false fuel rest
      some (item :: items, rest)

/-- The entries between brackets with the closing one. -/
def bracketedEntries? (handles : TagHandles) (first : Bool) :
    Nat → TokenReader (List (NamedNode × NamedNode))
  | 0, _ => none
  | _ + 1, .closing .curly :: rest => some ([], rest)
  | fuel + 1, tokens => do
    match ← afterComma? first tokens with
    | .closing .curly :: rest => some ([], rest)
    | .key :: rest => do
      let (key, rest) ← orEmpty (endsBracketedKey .curly) (node? handles .bracketed fuel) rest
      let (value, rest) ← bracketedValue? handles .curly fuel rest
      let (entries, rest) ← bracketedEntries? handles false fuel rest
      some ((key, value) :: entries, rest)
    | rest => do
      let (key, rest) ← node? handles .bracketed fuel rest
      let (entries, rest) ← bracketedEntries? handles false fuel rest
      some ((key, Properties.none.emptyNode) :: entries, rest)

/-- The value of a key between brackets. -/
def bracketedValue? (handles : TagHandles) (bracket : Bracket) : Nat → TokenReader NamedNode
  | 0, _ => none
  | fuel + 1, .value :: rest =>
    orEmpty (endsBracketed bracket) (node? handles .bracketed fuel) rest
  | _ + 1, rest => some (Properties.none.emptyNode, rest)

end

/-! ## Documents -/

/-- What the directives before a document say about the handles of tags.  A
version may be given once, and so may each handle. -/
def readDirectives? (version : Bool) (handles : TagHandles) :
    TokenReader TagHandles
  | .directive .version :: rest =>
    if version then none else readDirectives? true handles rest
  | .directive (.handle handle start) :: rest =>
    if (handles.lookup handle).isSome then none
    else readDirectives? version (handles ++ [(handle, start)]) rest
  | rest => some (handles, rest)

/-- Whether there is nothing in a document. -/
def endsDocument : List Token → Bool
  | [] | .directive _ :: _ | .mark _ :: _ => true
  | _ => false

/-- The node of the only document of a text. -/
def Node.ofTokens? (tokens : List Token) : Option NamedNode := do
  let (handles, rest) ← readDirectives? false [] tokens
  let read := node? (handles ++ TagHandles.default) .block (2 * tokens.length + 2)
  let (node, rest) ← match rest with
    | .mark .start :: rest => orEmpty endsDocument read rest
    | rest => if rest.length < tokens.length then none else read rest
  if rest.all (· = .mark .ending) then some node else none

end InfraSynth.Yaml

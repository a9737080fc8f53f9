import InfraSynth.Collection.Entries
import InfraSynth.Yaml.Node

/-!
# Trees

A tree is a node in which every alias has been replaced by what it stands for.

An anchor has the number of names that have been given before it, so giving a
name again takes the number of the next new name, and then both stand for
whatever was given that number last.  Trees are limited in depth, and aliases may
not be followed too often, so that a short text cannot stand for a huge tree.

## Main definitions

* `Node.numbered` replaces the names of anchors and aliases by numbers.
* `Node.expand` replaces the aliases.
* `Tree.ofText?` is the tree of a whole text.
-/

namespace InfraSynth.Yaml

/-- A node without aliases. -/
inductive Tree
  | scalar (scalar : Scalar)
  | sequence (tag : Option Tag) (items : List Tree)
  | mapping (tag : Option Tag) (entries : List (Tree × Tree))

/-- A node whose anchors and aliases are numbered. -/
abbrev NumberedNode := Node Nat

/-! ## Numbers of anchors -/

/-- Numbers that names stand for at some place of a text. -/
abbrev AnchorNumbers := Entries Nat

/-- Give the next number to the anchor of a node, if it has one. -/
def giveNumber : Option String → StateT AnchorNumbers Option (Option Nat)
  | none => return none
  | some name => do
    let numbers ← get
    set (Entries.insert numbers name numbers.length)
    return some numbers.length

mutual

/-- The node with numbers for names; an alias has to have a number by then. -/
def Node.numbered : NamedNode → StateT AnchorNumbers Option NumberedNode
  | .alias name => do return .alias (← Entries.get? (← get) name)
  | .scalar anchor leaf => do return .scalar (← giveNumber anchor) leaf
  | .sequence anchor tag items => do
    let anchor ← giveNumber anchor
    return .sequence anchor tag (← numberedItems items)
  | .mapping anchor tag entries => do
    let anchor ← giveNumber anchor
    return .mapping anchor tag (← numberedEntries entries)

/-- The items with numbers for names. -/
def numberedItems : List NamedNode → StateT AnchorNumbers Option (List NumberedNode)
  | [] => return []
  | item :: rest => do
    let item ← Node.numbered item
    return item :: (← numberedItems rest)

/-- The entries with numbers for names. -/
def numberedEntries :
    List (NamedNode × NamedNode) → StateT AnchorNumbers Option (List (NumberedNode × NumberedNode))
  | [] => return []
  | (key, value) :: rest => do
    let key ← Node.numbered key
    let value ← Node.numbered value
    return (key, value) :: (← numberedEntries rest)

end

/-- The node together with its number, if it has an anchor. -/
def Node.withNumber (node : NumberedNode) : List (Nat × NumberedNode) :=
  match node with
  | .scalar (some number) _ | .sequence (some number) .. | .mapping (some number) .. =>
    [(number, node)]
  | _ => []

mutual

/-- The nodes with anchors and their numbers, in the order of the text. -/
def Node.anchored : NumberedNode → List (Nat × NumberedNode)
  | .sequence anchor tag items =>
    Node.withNumber (.sequence anchor tag items) ++ anchoredItems items
  | .mapping anchor tag entries =>
    Node.withNumber (.mapping anchor tag entries) ++ anchoredEntries entries
  | node => node.withNumber

/-- The nodes with anchors among items. -/
def anchoredItems : List NumberedNode → List (Nat × NumberedNode)
  | [] => []
  | item :: rest => Node.anchored item ++ anchoredItems rest

/-- The nodes with anchors among entries. -/
def anchoredEntries : List (NumberedNode × NumberedNode) → List (Nat × NumberedNode)
  | [] => []
  | (key, value) :: rest => Node.anchored key ++ Node.anchored value ++ anchoredEntries rest

end

/-! ## Expansion -/

mutual

/-- The size of a node, counting the beginnings and ends of collections. -/
def Node.size : NumberedNode → Nat
  | .alias _ | .scalar .. => 1
  | .sequence _ _ items => sizeOfItems items + 2
  | .mapping _ _ entries => sizeOfEntries entries + 2

/-- The size of items. -/
def sizeOfItems : List NumberedNode → Nat
  | [] => 0
  | item :: rest => Node.size item + sizeOfItems rest

/-- The size of entries. -/
def sizeOfEntries : List (NumberedNode × NumberedNode) → Nat
  | [] => 0
  | (key, value) :: rest => Node.size key + Node.size value + sizeOfEntries rest

end

/-- How deep collections may be nested. -/
def maxDepth : Nat := 128

/-- How often aliases may be followed for every part of a node. -/
def maxAliasesPerPart : Nat := 100

/-- What a node stands for; following an alias uses up one of the times that are
left. -/
def Node.follow (anchored : List (Nat × NumberedNode)) :
    NumberedNode → StateT Nat Option NumberedNode
  | .alias number => do
    let left ← get
    if left = 0 then failure
    set (left - 1)
    anchored.reverse.lookup number
  | node => return node

/-- The tree of a node, with collections at most so deep. -/
def Node.expand (anchored : List (Nat × NumberedNode)) (depth : Nat) (node : NumberedNode) :
    StateT Nat Option Tree := do
  match ← node.follow anchored, depth with
  | .scalar _ leaf, _ => return .scalar leaf
  | .sequence _ tag items, depth + 1 =>
    return .sequence tag (← items.mapM (Node.expand anchored depth))
  | .mapping _ tag entries, depth + 1 =>
    return .mapping tag (← entries.mapM fun (key, value) => do
      let key ← Node.expand anchored depth key
      return (key, ← Node.expand anchored depth value))
  | _, _ => failure

/-- The tree of a node. -/
def Tree.ofNode? (node : NamedNode) : Option Tree := do
  let (node, _) ← node.numbered.run []
  let (tree, _) ← (node.expand node.anchored maxDepth).run (maxAliasesPerPart * node.size)
  some tree

/-- The tree of a text that holds one document. -/
def Tree.ofText? (text : String) : Option Tree := do
  ofNode? (← Node.ofTokens? (← tokens? text))

end InfraSynth.Yaml

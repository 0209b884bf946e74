import SheetFormula.Yaml.Node

/-!
# Documents

In a document the aliases are resolved: an alias stands for the last node before it with its name as
an anchor. Anchors are counted by their names, so an anchor has the number of names before it. If an
anchor takes over a name, the next new one has its number again; of two nodes with one number the
later one counts.

## Main definitions

* `SheetFormula.Yaml.Document` — a node whose aliases are resolved.
* `SheetFormula.Yaml.Document.ofRoot?` — the document of a node.
* `SheetFormula.Yaml.Document.follow?` — the node that a node stands for.
* `SheetFormula.Yaml.Document.text?`, `fields?` — the text of a scalar, the fields of a mapping.
-/

set_option relaxedAutoImplicit false
set_option autoImplicit false

namespace SheetFormula.Yaml

/-- The numbers of the names of anchors. -/
abbrev AnchorNames := List (String × Nat)

/-- Gives a name the next number. -/
def AnchorNames.insert (names : AnchorNames) (name : String) : AnchorNames :=
  (name, names.length) :: names.filter fun known => known.1 ≠ name

/-- Nodes by their numbers, earlier ones first. -/
abbrev Anchored := List (Nat × Node Nat)

/-- Gives the anchor of some properties a number. -/
def Properties.register (properties : Properties) (names : AnchorNames) : AnchorNames :=
  match properties.anchor with
  | some name => names.insert name
  | none => names

/-- A node under the number of its anchor, which is the number of names before it. -/
def Properties.anchored (properties : Properties) (names : AnchorNames) (node : Node Nat) :
    Anchored :=
  match properties.anchor with
  | some _ => [(names.length, node)]
  | none => []

mutual

/-- A node with numbers for its aliases, the names behind it, and the nodes in it that have anchors,
in the order of their starts. -/
def Node.number? (names : AnchorNames) : Node String → Option (Node Nat × AnchorNames × Anchored)
  | .alias name => do return (.alias (← names.lookup name), names, [])
  | .scalar properties text plain =>
    let node := .scalar properties text plain
    some (node, properties.register names, properties.anchored names node)
  | .sequence properties items => do
    let (items, behind, inner) ← numberItems? (properties.register names) items
    let node := .sequence properties items
    return (node, behind, properties.anchored names node ++ inner)
  | .mapping properties entries => do
    let (entries, behind, inner) ← numberEntries? (properties.register names) entries
    let node := .mapping properties entries
    return (node, behind, properties.anchored names node ++ inner)

/-- The items of a sequence with numbers for their aliases. -/
def numberItems? (names : AnchorNames) :
    List (Node String) → Option (List (Node Nat) × AnchorNames × Anchored)
  | [] => some ([], names, [])
  | item :: rest => do
    let (item, names, first) ← item.number? names
    let (items, names, more) ← numberItems? names rest
    return (item :: items, names, first ++ more)

/-- The entries of a mapping with numbers for their aliases. -/
def numberEntries? (names : AnchorNames) :
    List (Node String × Node String) →
      Option (List (Node Nat × Node Nat) × AnchorNames × Anchored)
  | [] => some ([], names, [])
  | (key, value) :: rest => do
    let (key, names, first) ← key.number? names
    let (value, names, second) ← value.number? names
    let (entries, names, more) ← numberEntries? names rest
    return ((key, value) :: entries, names, first ++ second ++ more)

end

/-- A node whose aliases are resolved. -/
structure Document where
  root : Node Nat
  anchored : Anchored
  deriving Repr, Inhabited

namespace Document

/-- The document of a node. There is none if an alias has no anchor before it. -/
def ofRoot? (root : Node String) : Option Document :=
  (root.number? []).map fun numbered => { root := numbered.1, anchored := numbered.2.2 }

/-- The node that a node stands for, which is another one only for an alias. -/
def follow? (document : Document) : Node Nat → Option (Node Nat)
  | .alias number => document.anchored.reverse.lookup number
  | node => some node

/-- The text of a scalar as it is written. -/
def text? (document : Document) (node : Node Nat) : Option String :=
  match document.follow? node with
  | some (.scalar _ text _) => some text
  | _ => none

/-- The fields of a mapping. Its keys must be scalars; their text counts as it is written. The empty
scalar has no fields, and other nodes are no mappings. -/
def fields? (document : Document) (node : Node Nat) : Option (List (String × Node Nat)) :=
  match document.follow? node with
  | some (.mapping _ entries) =>
    entries.mapM fun entry => (document.text? entry.1).map fun key => (key, entry.2)
  | some (.scalar _ "" true) => some []
  | _ => none

end Document

end SheetFormula.Yaml

import SheetFormula.Yaml.Document
import SheetFormula.Yaml.Scalar

/-!
# Data of documents

The data of a document is that of its root, where each alias has the data of its node. Two limits
keep it small: collections nest at most 128 deep, and the aliases that are followed are at most 100
times as many as the marks of the document.

## Main definitions

* `SheetFormula.Yaml.Document.dataOf?` — the data of a node.
* `SheetFormula.Yaml.Document.data?` — the data of a document.
-/

set_option relaxedAutoImplicit false
set_option autoImplicit false

namespace SheetFormula.Yaml

/-- How deep collections nest. -/
def nestingLimit : Nat := 128

/-- How many aliases are followed for each mark of a document. -/
def aliasLimit : Nat := 100

/-- Whether a node is an alias. -/
def Node.isAlias {α : Type} : Node α → Bool
  | .alias _ => true
  | _ => false

/-- Whether a collection with a tag is data. A tag of the document is none of a collection. -/
def Properties.isCollection (properties : Properties) : Bool :=
  !(properties.tag.any fun tag => tag.startsWith "!")

namespace Document

/-- The number of aliases that may still be followed behind a node, if it is allowed. -/
def spend? (node : Node Nat) (aliases : Nat) : Option Nat :=
  match node.isAlias, aliases with
  | false, aliases => some aliases
  | true, aliases + 1 => some aliases
  | true, 0 => none

/-- The data of some nodes one after the other, given the data of one. -/
def dataOfAll? {α β : Type} (dataOne? : α → Nat → Option (β × Nat)) :
    List α → Nat → Option (List β × Nat)
  | [], aliases => some ([], aliases)
  | first :: rest, aliases => do
    let (data, aliases) ← dataOne? first aliases
    let (more, aliases) ← dataOfAll? dataOne? rest aliases
    return (data :: more, aliases)

/-- The field of an entry, given the data of one node. -/
def fieldOf? (document : Document) (dataOne? : Node Nat → Nat → Option (Json × Nat))
    (entry : Node Nat × Node Nat) (aliases : Nat) : Option ((String × Json) × Nat) := do
  let aliases ← spend? entry.1 aliases
  let name ← document.text? entry.1
  let (data, aliases) ← dataOne? entry.2 aliases
  return ((name, data), aliases)

/-- The data of a node that is no alias, given the data of the nodes inside of it. Where collections
may not nest, nothing is given, and a collection has no data. -/
def contentOf? (document : Document) (dataInside? : Option (Node Nat → Nat → Option (Json × Nat)))
    (node : Node Nat) (aliases : Nat) : Option (Json × Nat) :=
  match node, dataInside? with
  | .scalar properties text plain, _ =>
    (scalarData? properties.tag text plain).map fun data => (data, aliases)
  | .sequence properties items, some dataOne? => do
    let (items, aliases) ← dataOfAll? dataOne? items aliases
    if properties.isCollection then return (.array items, aliases) else none
  | .mapping properties entries, some dataOne? => do
    let (fields, aliases) ← dataOfAll? (document.fieldOf? dataOne?) entries aliases
    if properties.isCollection then return (.object (Json.Fields.ofList fields), aliases) else none
  | _, _ => none

/-- The data of a node in which collections nest at most so deep, and the number of aliases that may
still be followed behind it. -/
def dataOf? (document : Document) (depth : Nat) (node : Node Nat) (aliases : Nat) :
    Option (Json × Nat) := do
  let aliases ← spend? node aliases
  let dataInside? := match depth with
    | 0 => none
    | depth + 1 => some (document.dataOf? depth)
  document.contentOf? dataInside? (← document.follow? node) aliases

/-- The data of a document. -/
def data? (document : Document) : Option Json :=
  (document.dataOf? nestingLimit document.root (aliasLimit * document.root.size)).map Prod.fst

end Document

end SheetFormula.Yaml

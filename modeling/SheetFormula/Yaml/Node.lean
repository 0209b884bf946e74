/-!
# Nodes

What a document is made of. A node may have a name, its anchor, by which an alias stands for it
elsewhere, and a tag that says what kind of data it is.

## Main definitions

* `SheetFormula.Yaml.Properties` — the anchor and the tag of a node.
* `SheetFormula.Yaml.Node` — the nodes.
* `SheetFormula.Yaml.Node.size` — how many marks a node takes up.
-/

set_option relaxedAutoImplicit false
set_option autoImplicit false

namespace SheetFormula.Yaml

/-- The anchor and the tag of a node. -/
structure Properties where
  anchor : Option String := none
  /-- The full name of the tag. -/
  tag : Option String := none
  deriving Repr, DecidableEq, Inhabited

/-- The nodes of a document, whose aliases stand for nodes that are known by an `α`. -/
inductive Node (α : Type) where
  | alias (target : α)
  /-- A scalar; `plain` says whether it has no quotes and is no block of text. -/
  | scalar (properties : Properties) (text : String) (plain : Bool)
  | sequence (properties : Properties) (items : List (Node α))
  | mapping (properties : Properties) (entries : List (Node α × Node α))
  deriving Repr, Inhabited

variable {α : Type}

/-- The scalar of no characters. -/
def Node.empty (properties : Properties) : Node α :=
  .scalar properties "" true

mutual

/-- How many marks a node takes up: one for a scalar or an alias, and two for the ends of a
collection. -/
def Node.size : Node α → Nat
  | .alias _ => 1
  | .scalar _ _ _ => 1
  | .sequence _ items => 2 + itemsSize items
  | .mapping _ entries => 2 + entriesSize entries

/-- How many marks the items of a sequence take up. -/
def itemsSize : List (Node α) → Nat
  | [] => 0
  | item :: rest => item.size + itemsSize rest

/-- How many marks the entries of a mapping take up. -/
def entriesSize : List (Node α × Node α) → Nat
  | [] => 0
  | (key, value) :: rest => key.size + value.size + entriesSize rest

end

end SheetFormula.Yaml

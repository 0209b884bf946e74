import SheetFormula.Yaml.Node
import SheetFormula.Yaml.Token

/-!
# From tokens to nodes

A document is one node, which may have directives before it. The readers take a node from the head
of a list of tokens and give back the tokens behind it.

## Main definitions

* `SheetFormula.Yaml.Handles` — what the handles of tags stand for.
* `SheetFormula.Yaml.Setting` — where a node stands.
* `SheetFormula.Yaml.node` — the node at the head of a list of tokens.
* `SheetFormula.Yaml.rootNode?` — the node of a document.
-/

set_option relaxedAutoImplicit false
set_option autoImplicit false

namespace SheetFormula.Yaml

/-! ## Tags -/

/-- What the handles of tags stand for. -/
abbrev Handles := List (String × String)

/-- The handles that need no directive. -/
def standardHandles : Handles :=
  [("!", "!"), ("!!", "tag:yaml.org,2002:")]

/-- The full name of a tag. -/
def Tag.name? (handles : Handles) (tag : Tag) : Option String :=
  if tag.handle = "" then some tag.suffix
  else (handles.lookup tag.handle).map (· ++ tag.suffix)

/-- The handles of some directives. No handle has two of them, there is at most one version, and it
is one of the known ones. -/
def handlesOf? (directives : List Directive) : Option Handles :=
  let handles := directives.filterMap fun directive =>
    match directive with
    | .handle handle expansion => some (handle, expansion)
    | .version _ _ => none
  let versions := directives.filterMap fun directive =>
    match directive with
    | .handle _ _ => none
    | .version major minor => some (major, minor)
  if versions ∈ [[], [(1, 1)], [(1, 2)]] ∧ (handles.map Prod.fst).Nodup then
    some (handles ++ standardHandles)
  else none

/-- The directives at the head of a list of tokens, and the tokens behind them. -/
def takeDirectives : List Token → List Directive × List Token
  | .directive directive :: rest =>
    let (directives, rest) := takeDirectives rest
    (directive :: directives, rest)
  | tokens => ([], tokens)

/-! ## Properties -/

/-- The anchor and the tag at the head of a list of tokens, and the tokens behind them. -/
def takeProperties : List Token → Option String × Option Tag × List Token
  | .anchor anchor :: .tag tag :: rest => (some anchor, some tag, rest)
  | .tag tag :: .anchor anchor :: rest => (some anchor, some tag, rest)
  | .anchor anchor :: rest => (some anchor, none, rest)
  | .tag tag :: rest => (none, some tag, rest)
  | tokens => (none, none, tokens)

/-- The properties at the head of a list of tokens, and the tokens behind them. -/
def readProperties? (handles : Handles) (tokens : List Token) :
    Option (Properties × List Token) :=
  let (anchor, tag, rest) := takeProperties tokens
  match tag with
  | none => some ({ anchor }, rest)
  | some tag => (tag.name? handles).map fun name => ({ anchor, tag := some name }, rest)

/-- The properties of a scalar. The tag of one mark is none. -/
def Properties.ofScalar (properties : Properties) : Properties :=
  { properties with tag := properties.tag.filter (· ≠ "!") }

/-- The node that consists of nothing but properties, of which there must be one. -/
def Properties.onlyNode? (properties : Properties) : Option (Node String) :=
  if properties = {} then none else some (.empty properties)

/-! ## Nodes -/

/-- Where a node stands, which says which blocks it may be. -/
inductive Setting where
  /-- In a flow collection, where there are no blocks. -/
  | flow
  /-- In a sequence, or at the root. -/
  | block
  /-- In a mapping, where the items of a sequence may stand at the column of the keys. -/
  | entry
  deriving Repr, DecidableEq

/-- Whether a list of tokens begins with one of some marks. -/
def beginsWith (marks tokens : List Token) : Bool :=
  tokens.head?.any marks.contains

mutual

/-- The node at the head of a list of tokens, and the tokens behind it. A node with properties may
be empty. Of three calls one inside the other at least one takes a token, so a `fuel` of three times
the number of tokens is enough, here and below. -/
def node (fuel : Nat) (handles : Handles) (setting : Setting) (tokens : List Token) :
    Option (Node String × List Token) :=
  match fuel, tokens with
  | 0, _ => none
  | _, .alias name :: rest => some (.alias name, rest)
  | fuel + 1, tokens => do
    let (properties, rest) ← readProperties? handles tokens
    match setting, rest with
    | .entry, .item :: _ =>
      let (items, rest) ← openItems fuel handles rest
      return (.sequence properties items, rest)
    | _, .scalar text plain :: rest => return (.scalar properties.ofScalar text plain, rest)
    | _, .flowSequenceStart :: rest =>
      let (items, rest) ← flowItems fuel handles true rest
      return (.sequence properties items, rest)
    | _, .flowMappingStart :: rest =>
      let (entries, rest) ← flowEntries fuel handles true rest
      return (.mapping properties entries, rest)
    | .flow, rest => return (← properties.onlyNode?, rest)
    | _, .sequenceStart :: rest =>
      let (items, rest) ← blockItems fuel handles rest
      return (.sequence properties items, rest)
    | _, .mappingStart :: rest =>
      let (entries, rest) ← blockEntries fuel handles rest
      return (.mapping properties entries, rest)
    | _, rest => return (← properties.onlyNode?, rest)

/-- The node at the head of a list of tokens, or the empty one before a mark that ends it. -/
def nodeBefore (fuel : Nat) (handles : Handles) (setting : Setting) (ends tokens : List Token) :
    Option (Node String × List Token) :=
  match fuel with
  | 0 => none
  | fuel + 1 =>
    if beginsWith ends tokens then some (.empty {}, tokens)
    else node fuel handles setting tokens

/-- The items of a block, up to its end. -/
def blockItems (fuel : Nat) (handles : Handles) (tokens : List Token) :
    Option (List (Node String) × List Token) :=
  match fuel, tokens with
  | 0, _ => none
  | fuel + 1, .item :: rest => do
    let (item, rest) ← nodeBefore fuel handles .block [.item, .blockEnd] rest
    let (items, rest) ← blockItems fuel handles rest
    return (item :: items, rest)
  | _, .blockEnd :: rest => some ([], rest)
  | _, _ => none

/-- The items of a sequence at the column of the keys around it, which has no end of its own. -/
def openItems (fuel : Nat) (handles : Handles) (tokens : List Token) :
    Option (List (Node String) × List Token) :=
  match fuel, tokens with
  | 0, _ => none
  | fuel + 1, .item :: rest => do
    let (item, rest) ← nodeBefore fuel handles .block [.item, .key, .value, .blockEnd] rest
    let (items, rest) ← openItems fuel handles rest
    return (item :: items, rest)
  | _, tokens => some ([], tokens)

/-- The entries of a block, up to its end. -/
def blockEntries (fuel : Nat) (handles : Handles) (tokens : List Token) :
    Option (List (Node String × Node String) × List Token) :=
  match fuel, tokens with
  | 0, _ => none
  | fuel + 1, .key :: rest => do
    let (key, rest) ← nodeBefore fuel handles .entry [.key, .value, .blockEnd] rest
    let (value, rest) ← entryValue fuel handles .entry [.key, .value, .blockEnd] rest
    let (entries, rest) ← blockEntries fuel handles rest
    return ((key, value) :: entries, rest)
  | _, .blockEnd :: rest => some ([], rest)
  | _, _ => none

/-- The value behind a key, which is empty if no colon comes, or a mark behind it. -/
def entryValue (fuel : Nat) (handles : Handles) (setting : Setting) (ends tokens : List Token) :
    Option (Node String × List Token) :=
  match fuel, tokens with
  | 0, _ => none
  | fuel + 1, .value :: rest => nodeBefore fuel handles setting ends rest
  | _, tokens => some (.empty {}, tokens)

/-- The items of a flow sequence, up to its end. All but the first have a comma before them. An item
with a key is a mapping of one entry; if the key is empty, so is the value, and the mark behind it
does not count. -/
def flowItems (fuel : Nat) (handles : Handles) (first : Bool) (tokens : List Token) :
    Option (List (Node String) × List Token) :=
  match fuel, first, tokens with
  | 0, _, _ => none
  | _, _, .flowSequenceEnd :: rest => some ([], rest)
  | fuel + 1, false, .comma :: rest => flowItems fuel handles true rest
  | _, false, _ => none
  | fuel + 1, true, .key :: rest => do
    let ends : List Token := [.comma, .flowSequenceEnd]
    let (key, behind) ← nodeBefore fuel handles .flow (.value :: ends) rest
    let behind := if beginsWith (.value :: ends) rest then behind.drop 1 else behind
    let (value, behind) ← entryValue fuel handles .flow ends behind
    let (items, behind) ← flowItems fuel handles false behind
    return (.mapping {} [(key, value)] :: items, behind)
  | fuel + 1, true, tokens => do
    let (item, rest) ← node fuel handles .flow tokens
    let (items, rest) ← flowItems fuel handles false rest
    return (item :: items, rest)

/-- The entries of a flow mapping, up to its end. All but the first have a comma before them. A node
without the sign of a key has no value. -/
def flowEntries (fuel : Nat) (handles : Handles) (first : Bool) (tokens : List Token) :
    Option (List (Node String × Node String) × List Token) :=
  match fuel, first, tokens with
  | 0, _, _ => none
  | _, _, .flowMappingEnd :: rest => some ([], rest)
  | fuel + 1, false, .comma :: rest => flowEntries fuel handles true rest
  | _, false, _ => none
  | fuel + 1, true, .key :: rest => do
    let ends : List Token := [.comma, .flowMappingEnd]
    let (key, rest) ← nodeBefore fuel handles .flow (.value :: ends) rest
    let (value, rest) ← entryValue fuel handles .flow ends rest
    let (entries, rest) ← flowEntries fuel handles false rest
    return ((key, value) :: entries, rest)
  | fuel + 1, true, tokens => do
    let (key, rest) ← node fuel handles .flow tokens
    let (entries, rest) ← flowEntries fuel handles false rest
    return ((key, .empty {}) :: entries, rest)

end

/-! ## Documents -/

/-- The node that takes up a list of tokens but for marks of the end behind it. -/
def lastNode? (handles : Handles) (tokens : List Token) : Option (Node String) := do
  let (root, rest) ← node (3 * tokens.length + 3) handles .block tokens
  if rest.all (· == .documentEnd) then return root else none

/-- The node of a document behind the mark of its start. -/
def markedNode? (handles : Handles) (tokens : List Token) : Option (Node String) :=
  match tokens with
  | [] | .documentEnd :: _ =>
    if tokens.all (· == .documentEnd) then some (.empty {}) else none
  | .directive _ :: _ | .documentStart :: _ => none
  | tokens => lastNode? handles tokens

/-- The node of the only document in a list of tokens; the inner option is empty if there is none.
Directives need the mark of the start behind them. -/
def rootNode? (tokens : List Token) : Option (Option (Node String)) :=
  match tokens with
  | [] => some none
  | tokens => do
    let (directives, rest) := takeDirectives tokens
    let handles ← handlesOf? directives
    match rest with
    | .documentStart :: rest => return some (← markedNode? handles rest)
    | rest => if directives = [] then return some (← lastNode? handles rest) else none

end SheetFormula.Yaml

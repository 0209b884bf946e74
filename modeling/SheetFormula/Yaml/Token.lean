import SheetFormula.Yaml.Cursor

/-!
# Tokens of YAML texts

A text is cut into tokens before its structure is read. The blocks that indentation makes have
tokens for their starts and ends, and so have the keys of mappings.

## Main definitions

* `SheetFormula.Yaml.Tag`, `SheetFormula.Yaml.Directive` — tags and directives as they are written.
* `SheetFormula.Yaml.Token` — the tokens.
-/

set_option relaxedAutoImplicit false
set_option autoImplicit false

namespace SheetFormula.Yaml

/-- A tag: a handle that stands for the head of a name, and the tail of that name. A tag that is
written in full has the empty handle. -/
structure Tag where
  handle : String
  suffix : String
  deriving Repr, DecidableEq

/-- A line before a document. -/
inductive Directive where
  /-- The version of the language. -/
  | version (major minor : Nat)
  /-- What a handle stands for. -/
  | handle (handle expansion : String)
  deriving Repr, DecidableEq

/-- The tokens of a text. -/
inductive Token where
  | directive (directive : Directive)
  | documentStart
  | documentEnd
  /-- The start of a sequence that is a block. -/
  | sequenceStart
  /-- The start of a mapping that is a block. -/
  | mappingStart
  /-- The end of a block. -/
  | blockEnd
  /-- The sign of an item in a block. -/
  | item
  | flowSequenceStart
  | flowSequenceEnd
  | flowMappingStart
  | flowMappingEnd
  | comma
  | key
  | value
  | anchor (name : String)
  | alias (name : String)
  | tag (tag : Tag)
  | scalar (text : String) (plain : Bool)
  deriving Repr, DecidableEq

end SheetFormula.Yaml

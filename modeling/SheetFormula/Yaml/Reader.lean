import SheetFormula.Yaml.Data
import SheetFormula.Yaml.Grammar
import SheetFormula.Yaml.Lexer

/-!
# Reading YAML

A text is cut into tokens, the tokens make up a node, and the aliases of the node are resolved. A
text has at most one document.

## Main definitions

* `SheetFormula.Yaml.read?` — the document of a text.
-/

set_option relaxedAutoImplicit false
set_option autoImplicit false

namespace SheetFormula.Yaml

/-- The document of a text; the inner option is empty if the text has no document in it. -/
def read? (text : String) : Option (Option Document) := do
  match ← rootNode? (← tokens? text.toList) with
  | none => return none
  | some root => return some (← Document.ofRoot? root)

end SheetFormula.Yaml

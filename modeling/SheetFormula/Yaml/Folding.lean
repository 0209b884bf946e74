import SheetFormula.Yaml.Cursor

/-!
# Folding of lines

A scalar may go on over several lines. The gaps around the end of a line do not count. The end of a
line is a space; if empty lines follow, it stands for nothing, and each of them is a line feed.

## Main definitions

* `SheetFormula.Yaml.folded` — what the space between two parts of a scalar stands for.
-/

set_option relaxedAutoImplicit false
set_option autoImplicit false

namespace SheetFormula.Yaml

/-- What a first end of a line and those of the empty lines after it stand for. -/
def foldedBreaks (first : Char) (more : List Char) : List Char :=
  if first = '\n' then (if more = [] then [' '] else more) else first :: more

/-- What a run of gaps and ends of lines between two parts of a scalar stands for. -/
def folded (run : List Char) : List Char :=
  match run.filter isBreak with
  | [] => run
  | first :: more => foldedBreaks first more

end SheetFormula.Yaml

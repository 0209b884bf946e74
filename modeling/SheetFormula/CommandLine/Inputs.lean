import SheetFormula.Error
import SheetFormula.Json.Reader
import SheetFormula.Text.Blank
import SheetFormula.Yaml.Reader

/-!
# Inputs of a command

The data of a formula comes from files and from named arguments. A file is YAML if its name ends
so, and JSON otherwise. A named argument is written as `name=value`; its value is JSON if it can be
read as that, and text otherwise.

## Main definitions

* `SheetFormula.CommandLine.Files` — the files that a command may read.
* `SheetFormula.CommandLine.loadData` — the data in a file.
* `SheetFormula.CommandLine.readArgument` — the name and value of an argument.
-/

set_option relaxedAutoImplicit false
set_option autoImplicit false

namespace SheetFormula.CommandLine

/-! ## Files -/

/-- The files that a command may read: what stands in the file of a name, if there is one. -/
abbrev Files := String → Option String

/-- The text of a file. -/
def loadText (files : Files) (name : String) : Except CalcError String :=
  match files name with
  | some content => .ok content
  | none => .error (.file name)

/-- The part of a file's name behind its last point. A name that begins with its only point has no
such part. -/
def nameEnding? (name : String) : Option String :=
  let last := name.toList.reverse.takeWhile (· ≠ '/')
  match last.dropWhile (· ≠ '.') with
  | '.' :: _ :: _ => some (String.ofList (last.takeWhile (· ≠ '.')).reverse)
  | _ => none

/-- Whether a file is YAML. -/
def isYamlFile (name : String) : Bool :=
  nameEnding? name == some "yaml" || nameEnding? name == some "yml"

/-- The data that YAML describes, null if there is no document. -/
def readYaml (text : String) : Except CalcError Json :=
  match Yaml.read? text with
  | none => .error .yaml
  | some none => .ok .null
  | some (some document) => (document.data?.map Except.ok).getD (.error .yaml)

/-- The data that JSON describes. -/
def readJson (text : String) : Except CalcError Json :=
  ((Json.read? text.toList).map Except.ok).getD (.error .json)

/-- The data in a file. -/
def loadData (files : Files) (name : String) : Except CalcError Json := do
  let text ← loadText files name
  if isYamlFile name then readYaml text else readJson text

/-! ## Named arguments -/

/-- The name and value of an argument. The name stands before the first equals sign, and white
space around it does not count. -/
def readArgument (text : String) : Except CalcError (String × Json) :=
  let name := Text.trim (text.toList.takeWhile (· ≠ '='))
  match text.toList.dropWhile (· ≠ '=') with
  | _ :: value =>
    if name = [] then .error (.parse (.argument text))
    else .ok (String.ofList name, (Json.read? value).getD (.text (String.ofList value)))
  | [] => .error (.parse (.argument text))

/-- The named arguments that texts describe; of two with one name the later one counts. -/
def readArguments (texts : List String) : Except CalcError Json.Fields :=
  (texts.mapM readArgument).map Json.Fields.ofList

end SheetFormula.CommandLine

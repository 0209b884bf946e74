/-!
# Words and options

A command line is a list of words. A word that begins with two hyphens names an option, which may
have its value behind an equals sign; a word that begins with one hyphen names options by single
letters, the last of which may have its value behind it. Otherwise the value of an option is the
next word, which must not look like an option itself. All words behind a word of just two hyphens
are plain.

## Main definitions

* `SheetFormula.CommandLine.Switch` — the options there are.
* `SheetFormula.CommandLine.Word` — words by their form.
* `SheetFormula.CommandLine.Item`, `SheetFormula.CommandLine.readItems` — what a command line
  consists of.
-/

set_option relaxedAutoImplicit false
set_option autoImplicit false

namespace SheetFormula.CommandLine

/-- The options of all commands. -/
inductive Switch where
  /-- The file with data for all evaluations. -/
  | context
  /-- The file with data for this evaluation. -/
  | localData
  /-- A named argument. -/
  | argument
  /-- The result if the evaluation fails. -/
  | standIn
  | timezone
  /-- The file with the configuration. -/
  | configuration
  /-- Whether the result is shown as JSON. -/
  | json
  /-- Whether the inputs are shown. -/
  | verbose
  | help
  | version
  deriving Repr, DecidableEq

namespace Switch

/-- The name of an option. -/
def name : Switch → String
  | context => "context"
  | localData => "local"
  | argument => "arg"
  | standIn => "default"
  | timezone => "timezone"
  | configuration => "config"
  | json => "json"
  | verbose => "verbose"
  | help => "help"
  | version => "version"

/-- The letter of an option. -/
def letter? : Switch → Option Char
  | context => some 'c'
  | localData => some 'l'
  | argument => some 'a'
  | standIn => some 'd'
  | timezone => some 't'
  | configuration => none
  | json => none
  | verbose => some 'v'
  | help => some 'h'
  | version => some 'V'

/-- Whether an option has a value. -/
def takesValue : Switch → Bool
  | context | localData | argument | standIn | timezone | configuration => true
  | json | verbose | help | version => false

/-- Whether an option names a file. -/
def namesFile : Switch → Bool
  | context | localData | configuration => true
  | _ => false

/-- Whether an option may be given more than once. -/
def repeats : Switch → Bool
  | argument => true
  | _ => false

/-- Whether an option ends the command line, so that nothing behind it counts. -/
def isFinal : Switch → Bool
  | help | version => true
  | _ => false

end Switch

/-! ## Words -/

/-- The words of a command line. -/
inductive Word where
  /-- Two hyphens, behind which all words are plain. -/
  | separator
  /-- The name of an option, and the value behind an equals sign. -/
  | named (name : String) (value : Option String)
  /-- The letters of options. -/
  | letters (text : List Char)
  | plain (text : String)
  deriving Repr, DecidableEq

/-- The word that a text is. A single hyphen is plain. -/
def Word.ofText (text : String) : Word :=
  match text.toList with
  | ['-', '-'] => .separator
  | '-' :: '-' :: rest =>
    let name := String.ofList (rest.takeWhile (· ≠ '='))
    match rest.dropWhile (· ≠ '=') with
    | _ :: value => .named name (some (String.ofList value))
    | [] => .named name none
  | '-' :: c :: rest => .letters (c :: rest)
  | _ => .plain text

/-! ## Items -/

/-- The parts of a command line. -/
inductive Item where
  | plain (text : String)
  /-- An option and its value, which is empty for an option without one. -/
  | option (switch : Switch) (value : String)
  deriving Repr, DecidableEq

/-- Whether nothing behind an item counts. -/
def Item.isFinal : Item → Bool
  | .plain _ => false
  | .option switch _ => switch.isFinal

/-- The options that letters name, and the one that waits for its value. -/
def readLetters (accepted : List Switch) : List Char → Option (List Item × Option Switch)
  | [] => some ([], none)
  | c :: rest => do
    let switch ← accepted.find? fun switch => switch.letter? == some c
    if switch.takesValue then
      match rest with
      | [] => return ([], some switch)
      | '=' :: value => return ([.option switch (String.ofList value)], none)
      | value => return ([.option switch (String.ofList value)], none)
    else if switch.isFinal then return ([.option switch ""], none)
    else
      let (items, waiting) ← readLetters accepted rest
      return (.option switch "" :: items, waiting)

/-- The items of a word, and the option that waits for its value. -/
def readWord (accepted : List Switch) : Word → Option (List Item × Option Switch)
  | .separator => some ([], none)
  | .plain text => some ([.plain text], none)
  | .letters text => readLetters accepted text
  | .named name value => do
    let switch ← accepted.find? fun switch => switch.name == name
    match switch.takesValue, value with
    | true, some value => return ([.option switch value], none)
    | true, none => return ([], some switch)
    | false, none => return ([.option switch ""], none)
    | false, some _ => none

/-- The items of a command line whose command accepts some options. There are none if a word has
no meaning or a value is missing. -/
def readItems (accepted : List Switch) : List String → Option (List Item)
  | [] => some []
  | text :: rest =>
    if Word.ofText text = .separator then some (rest.map .plain)
    else
      match readWord accepted (Word.ofText text), rest with
      | none, _ => none
      | some (items, none), rest =>
        if items.any Item.isFinal then some items
        else (readItems accepted rest).map (items ++ ·)
      | some (_, some _), [] => none
      | some (items, some switch), value :: rest =>
        match Word.ofText value with
        | .plain value =>
          (readItems accepted rest).map (items ++ .option switch value :: ·)
        | _ => none

end SheetFormula.CommandLine

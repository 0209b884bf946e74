import SheetFormula.Formula.Compile
import SheetFormula.Proofs.Formula.Lexing
import SheetFormula.Proofs.Formula.Soundness

/-!
# The words of a formula

A tree holds words of three kinds: the names of data, the names of functions, and the names of
properties. Each of them comes from tokens of the formula, and these from its text. The names of
data and functions stand in the text as they are in the tree. The tokens of the word operators can
name a property too, and these have signs as well as words for spellings; so the property `and` can
stand in the text as `&&`.

## Main definitions

* `SheetFormula.Formula.Expr.words` — the words of a tree.
* `SheetFormula.Formula.Word.IsWritten` — the tokens that a word is written as.
* `SheetFormula.Formula.WrittenIn` — some words stand among some tokens.

## Main results

* `SheetFormula.Formula.Derives.writtenIn` — the words of a tree stand among the tokens of its
  derivation.
* `SheetFormula.Formula.words_in_text` — the words of a formula stand in its text.
-/

set_option relaxedAutoImplicit false
set_option autoImplicit false

namespace SheetFormula.Formula

open SheetFormula.Text (isBlank)

/-! ## Words -/

/-- A word of a tree. -/
inductive Word where
  /-- The name of data. -/
  | reference (name : String)
  /-- The name of a function that is called. -/
  | function (name : String)
  /-- The name of a property. -/
  | property (name : String)
  deriving Repr, DecidableEq

mutual

/-- The words of a tree, in the order in which they stand. -/
def Expr.words : Expr → List Word
  | .number _ => []
  | .text _ => []
  | .boolean _ => []
  | .reference name => [.reference name]
  | .member object property => object.words ++ [.property property]
  | .index object key => object.words ++ key.words
  | .call name arguments => .function name :: wordsOfAll arguments
  | .binary _ left right => left.words ++ right.words
  | .unary _ operand => operand.words
  | .choice condition whenTrue whenFalse =>
    condition.words ++ (whenTrue.words ++ whenFalse.words)

/-- The words of some trees. -/
def wordsOfAll : List Expr → List Word
  | [] => []
  | expr :: rest => expr.words ++ wordsOfAll rest

end

/-- The words of a suffix. -/
def Suffix.words : Suffix → List Word
  | .key inside => inside.value.words
  | .property _ name => [.property name]

/-- The words of a chain are those of its operands. -/
lemma words_foldl_attach (links : List Link) (first : Expr) :
    (links.foldl Link.attach first).words =
      first.words ++ links.flatMap fun link => link.operand.value.words := by
  induction links generalizing first with
  | nil => simp
  | cons link links ih =>
    rw [List.foldl_cons, ih, Link.attach, Expr.words, List.flatMap_cons, List.append_assoc]

/-- The words of an expression with suffixes are its own and those of the suffixes. -/
lemma words_foldl_attach_suffix (suffixes : List Suffix) (object : Expr) :
    (suffixes.foldl Suffix.attach object).words = object.words ++ suffixes.flatMap Suffix.words := by
  induction suffixes generalizing object with
  | nil => simp
  | cons suffix suffixes ih =>
    rw [List.foldl_cons, ih, List.flatMap_cons, ← List.append_assoc]
    cases suffix <;> rfl

/-- Constants have no words. -/
lemma words_of_mem_constants {name : String} {value : Expr} (h : (name, value) ∈ constants) :
    value.words = [] := by
  simp only [constants, List.mem_cons, Prod.mk.injEq, List.not_mem_nil, or_false] at h
  rcases h with ⟨-, rfl⟩ | ⟨-, rfl⟩ | ⟨-, rfl⟩ | ⟨-, rfl⟩ | ⟨-, rfl⟩ | ⟨-, rfl⟩ <;> rfl

/-! ## Words among tokens -/

/-- The tokens that a word is written as: data as its name, a function with the parenthesis that
calls it, a property with the point before it. -/
inductive Word.IsWritten : Word → List Token → Prop
  | reference (name : String) : IsWritten (.reference name) [.name name]
  | function (name : String) : IsWritten (.function name) [.name name, .openParen]
  | property {token : Token} {name : String} (hname : NamesProperty token name) :
    IsWritten (.property name) [.dot, token]

/-- Each of some words stands among some tokens. -/
def WrittenIn (words : List Word) (tokens : List Token) : Prop :=
  ∀ word ∈ words, ∃ piece, word.IsWritten piece ∧ piece <:+: tokens

section WrittenIn

variable {words words' : List Word} {tokens tokens' : List Token}

/-- No words stand anywhere. -/
lemma writtenIn_nil (tokens : List Token) : WrittenIn [] tokens := by
  intro word hword
  cases hword

/-- What stands among some tokens stands among more of them. -/
lemma WrittenIn.mono (h : WrittenIn words tokens) (hpart : tokens <:+: tokens') :
    WrittenIn words tokens' := by
  intro word hword
  obtain ⟨piece, hpiece, hstands⟩ := h word hword
  exact ⟨piece, hpiece, hstands.trans hpart⟩

/-- The words of two lists stand among tokens that hold both. -/
lemma WrittenIn.union (h : WrittenIn words tokens) (h' : WrittenIn words' tokens) :
    WrittenIn (words ++ words') tokens := by
  intro word hword
  exact (List.mem_append.mp hword).elim (h word) (h' word)

/-- Words that stand among tokens stand among them and those behind. -/
lemma WrittenIn.append (h : WrittenIn words tokens) (h' : WrittenIn words' tokens') :
    WrittenIn (words ++ words') (tokens ++ tokens') :=
  (h.mono (List.prefix_append _ _).isInfix).union (h'.mono (List.suffix_append _ _).isInfix)

/-- A token more in front changes nothing. -/
lemma WrittenIn.cons (h : WrittenIn words tokens) (token : Token) :
    WrittenIn words (token :: tokens) :=
  h.mono (List.suffix_cons _ _).isInfix

/-- A word stands among the tokens that it is written as. -/
lemma Word.IsWritten.writtenIn {word : Word} (h : word.IsWritten tokens) :
    WrittenIn [word] tokens := by
  intro word' hword'
  cases List.mem_singleton.mp hword'
  exact ⟨tokens, h, List.infix_refl _⟩

/-- The words of several parts stand among the tokens of all of them. -/
lemma WrittenIn.flatMap {α : Type} {parts : List α} {wordsOf : α → List Word}
    {tokensOf : α → List Token} (h : ∀ part ∈ parts, WrittenIn (wordsOf part) (tokensOf part)) :
    WrittenIn (parts.flatMap wordsOf) (parts.flatMap tokensOf) := by
  induction parts with
  | nil => exact writtenIn_nil _
  | cons part parts ih =>
    rw [List.flatMap_cons, List.flatMap_cons]
    exact (h part (List.mem_cons_self ..)).append
      (ih fun other hother => h other (List.mem_cons_of_mem _ hother))

/-- The words of arguments stand among their tokens. -/
lemma writtenIn_arguments {arguments : List Phrase}
    (h : ∀ argument ∈ arguments, WrittenIn argument.value.words argument.tokens) :
    WrittenIn (wordsOfAll (arguments.map Phrase.value)) (argumentTokens arguments) := by
  induction arguments with
  | nil => exact writtenIn_nil _
  | cons first rest ih =>
    have hfirst := h first (List.mem_cons_self ..)
    have hrest := ih fun other hother => h other (List.mem_cons_of_mem _ hother)
    cases rest with
    | nil => simpa [wordsOfAll] using hfirst
    | cons second rest =>
      rw [argumentTokens_cons_cons]
      exact hfirst.append (hrest.cons _)

/-- The words of suffixes stand among their tokens. -/
lemma writtenIn_suffixes {suffixes : List Suffix}
    (hkeys : ∀ key, Suffix.key key ∈ suffixes → WrittenIn key.value.words key.tokens)
    (hnames : ∀ token name, Suffix.property token name ∈ suffixes → NamesProperty token name) :
    WrittenIn (suffixes.flatMap Suffix.words) (suffixes.flatMap Suffix.tokens) := by
  refine .flatMap fun suffix hsuffix => ?_
  cases suffix with
  | key inside => exact ((hkeys inside hsuffix).mono (List.prefix_append _ _).isInfix).cons _
  | property token name => exact (Word.IsWritten.property (hnames token name hsuffix)).writtenIn

end WrittenIn

/-- **The words of a tree stand among its tokens**, in every derivation of the grammar.

**Proof sketch.** Induction on the derivation, one case for each rule. The tokens of a phrase hold
those of its parts, and its words are those of its parts with, at a reference, a call or a property,
one word more, which the rule itself writes. -/
theorem Derives.writtenIn {category : Category} {phrase : Phrase} (h : Derives category phrase) :
    WrittenIn phrase.value.words phrase.tokens := by
  induction h with
  | plain _ ih => exact ih
  | choice _ _ _ ihcondition ihwhenTrue ihwhenFalse =>
    rw [List.append_assoc]
    exact ihcondition.append ((ihwhenTrue.append (ihwhenFalse.cons _)).cons _)
  | operand _ ih => exact ih
  | chain _ _ _ ihfirst ihlinks =>
    rw [words_foldl_attach]
    exact ihfirst.append (.flatMap fun link hlink => (ihlinks link hlink).cons _)
  | signed _ _ ih => exact ih.cons _
  | unsigned _ ih => exact ih
  | unraised _ ih => exact ih
  | raised _ _ ihbase ihexponent => exact ihbase.append (ihexponent.cons _)
  | suffixed _ _ hnames ihhead ihkeys =>
    rw [words_foldl_attach_suffix]
    exact ihhead.append (writtenIn_suffixes ihkeys hnames)
  | @called name arguments suffixes _ _ _ hnames iharguments ihkeys =>
    rw [words_foldl_attach_suffix]
    have hcall : WrittenIn (.function name :: wordsOfAll (arguments.map Phrase.value))
        (.name name :: .openParen :: argumentTokens arguments) :=
      (Word.IsWritten.function name).writtenIn.append (writtenIn_arguments iharguments)
    exact hcall.append ((writtenIn_suffixes ihkeys hnames).cons _)
  | number => exact writtenIn_nil _
  | text => exact writtenIn_nil _
  | constant hconstant =>
    rw [words_of_mem_constants hconstant]
    exact writtenIn_nil _
  | reference => exact (Word.IsWritten.reference _).writtenIn
  | group _ ih => exact (ih.mono (List.prefix_append _ _).isInfix).cons _

/-! ## Words in the text -/

/-- The first token of a text, if it is no literal, stands behind white space as one of its
spellings, and what follows it has the other tokens. -/
lemma Scans.exists_spelling {text : List Char} {token : Token} {tokens : List Token}
    (h : Scans text (token :: tokens)) (hliteral : token.isLiteral = false) :
    ∃ gap, ∃ spelling ∈ token.spellings, ∃ after, (∀ c ∈ gap, isBlank c = true) ∧
      text = gap ++ (spelling.toList ++ after) ∧ Scans after tokens := by
  obtain ⟨gap, c, rest, after, rfl, hgap, hread, hafter⟩ := h.exists_cons
  obtain ⟨spelling, hspelling, htext⟩ := hread.exists_spelling hliteral
  exact ⟨gap, spelling, hspelling, after, hgap, by rw [htext], hafter⟩

/-- A token that is no literal stands in the text as one of its spellings. -/
lemma Scans.token_in_text {text : List Char} {token : Token} {tokens : List Token}
    (h : Scans text tokens) (hpart : [token] <:+: tokens) (hliteral : token.isLiteral = false) :
    ∃ spelling ∈ token.spellings, spelling.toList <:+: text := by
  obtain ⟨first, last, rfl⟩ := hpart
  rw [List.append_assoc] at h
  obtain ⟨front, rest, rfl, hrest⟩ := h.exists_suffix
  obtain ⟨gap, spelling, hspelling, after, -, rfl, -⟩ := hrest.exists_spelling hliteral
  exact ⟨spelling, hspelling, front ++ gap, after, by simp⟩

/-- Two tokens that follow each other and are no literals stand in the text as two spellings, with
white space between them. -/
lemma Scans.pair_in_text {text : List Char} {token token' : Token} {tokens : List Token}
    (h : Scans text tokens) (hpart : [token, token'] <:+: tokens)
    (hliteral : token.isLiteral = false) (hliteral' : token'.isLiteral = false) :
    ∃ spelling ∈ token.spellings, ∃ spelling' ∈ token'.spellings, ∃ gap,
      (∀ c ∈ gap, isBlank c = true) ∧
        spelling.toList ++ (gap ++ spelling'.toList) <:+: text := by
  obtain ⟨first, last, rfl⟩ := hpart
  rw [List.append_assoc] at h
  obtain ⟨front, rest, rfl, hrest⟩ := h.exists_suffix
  obtain ⟨before, spelling, hspelling, after, -, rfl, hafter⟩ := hrest.exists_spelling hliteral
  obtain ⟨gap, spelling', hspelling', after', hgap, rfl, -⟩ := hafter.exists_spelling hliteral'
  exact ⟨spelling, hspelling, spelling', hspelling', gap, hgap, front ++ before, after', by simp⟩

/-- The word operators, and the signs that are read as them. -/
def wordSigns : List (String × String) :=
  [("and", "&&"), ("or", "||"), ("not", "!")]

/-- A token that names a property is no literal, and is written as that name or, if the name is a
word operator, as its sign. -/
lemma NamesProperty.spellings {token : Token} {name : String} (h : NamesProperty token name) :
    token.isLiteral = false ∧
      ∀ spelling ∈ token.spellings, spelling = name ∨ (name, spelling) ∈ wordSigns := by
  cases h with
  | name => exact ⟨rfl, fun spelling hspelling => .inl (List.mem_singleton.mp hspelling)⟩
  | and => exact ⟨rfl, by decide⟩
  | or => exact ⟨rfl, by decide⟩
  | not => exact ⟨rfl, by decide⟩

/-- A formula that compiles has the tokens of its text and a tree that derives from them. -/
lemma derives_of_compile {text : String} {expr : Expr} (h : compile text = .ok expr) :
    ∃ tokens need, Scans text.toList tokens ∧ Derives .conditional ⟨tokens, expr, need⟩ := by
  unfold compile at h
  obtain ⟨tokens, htokens, hparse⟩ := of_bind_eq_ok h
  have htokenize : tokenize text = .ok tokens := of_mapError_eq_ok htokens
  obtain ⟨need, -, hderives⟩ := derives_of_parse (of_mapError_eq_ok hparse)
  exact ⟨tokens, need, tokenize_eq_ok_iff.mp htokenize, hderives⟩

/-- **The words of a formula stand in its text.** The names of data and functions do so as they are,
functions before a parenthesis. Properties stand behind a point; as they are, unless the name is a
word operator and its sign stands there.

**Proof sketch.** The words stand among the tokens, by induction on the derivation of the tree. Each
token that a word is written as is no literal, so it stands in the text as one of its spellings, and
between two tokens that follow each other there is nothing but white space. -/
theorem words_in_text {text : String} {expr : Expr} (h : compile text = .ok expr) :
    (∀ name, .reference name ∈ expr.words → name.toList <:+: text.toList) ∧
      (∀ name, .function name ∈ expr.words → ∃ gap, (∀ c ∈ gap, isBlank c = true) ∧
        name.toList ++ (gap ++ ['(']) <:+: text.toList) ∧
      ∀ name, .property name ∈ expr.words → ∃ gap spelling, (∀ c ∈ gap, isBlank c = true) ∧
        '.' :: (gap ++ spelling.toList) <:+: text.toList ∧
        (spelling = name ∨ (name, spelling) ∈ wordSigns) := by
  obtain ⟨tokens, need, hscans, hderives⟩ := derives_of_compile h
  have hwords := hderives.writtenIn
  refine ⟨fun name hname => ?_, fun name hname => ?_, fun name hname => ?_⟩
  · obtain ⟨piece, hpiece, hpart⟩ := hwords _ hname
    cases hpiece
    obtain ⟨spelling, hspelling, hstands⟩ := hscans.token_in_text hpart rfl
    rwa [List.mem_singleton.mp hspelling] at hstands
  · obtain ⟨piece, hpiece, hpart⟩ := hwords _ hname
    cases hpiece
    obtain ⟨spelling, hspelling, paren, hparen, gap, hgap, hstands⟩ :=
      hscans.pair_in_text hpart rfl rfl
    rw [List.mem_singleton.mp hspelling, List.mem_singleton.mp hparen] at hstands
    exact ⟨gap, hgap, hstands⟩
  · obtain ⟨piece, hpiece, hpart⟩ := hwords _ hname
    cases hpiece with
    | property hnames =>
      obtain ⟨hliteral, hspellings⟩ := hnames.spellings
      obtain ⟨point, hpoint, spelling, hspelling, gap, hgap, hstands⟩ :=
        hscans.pair_in_text hpart rfl hliteral
      rw [List.mem_singleton.mp hpoint] at hstands
      exact ⟨gap, spelling, hgap, hstands, hspellings spelling hspelling⟩

/-- A formula with a word of each kind, the property behind some white space. -/
theorem words_of_called_member :
    ∃ expr, compile "SUM(x). y" = .ok expr ∧
      expr.words = [.function "SUM", .reference "x", .property "y"] ∧
      "x".toList <:+: "SUM(x). y".toList ∧
      (∃ gap, (∀ c ∈ gap, isBlank c = true) ∧
        "SUM".toList ++ (gap ++ ['(']) <:+: "SUM(x). y".toList) ∧
      ∃ gap spelling, (∀ c ∈ gap, isBlank c = true) ∧
        '.' :: (gap ++ spelling.toList) <:+: "SUM(x). y".toList ∧
        (spelling = "y" ∨ ("y", spelling) ∈ wordSigns) := by
  have hcompile : (compile "SUM(x). y").toOption.map Expr.words =
      some [.function "SUM", .reference "x", .property "y"] := by decide +kernel
  obtain ⟨expr, hexpr, hwords⟩ := Option.map_eq_some_iff.mp hcompile
  cases h : compile "SUM(x). y" with
  | error failure =>
    rw [h] at hexpr
    cases hexpr
  | ok tree =>
    rw [h] at hexpr
    cases hexpr
    obtain ⟨hreference, hfunction, hproperty⟩ := words_in_text h
    exact ⟨expr, rfl, hwords, hreference "x" (by simp [hwords]), hfunction "SUM" (by simp [hwords]),
      hproperty "y" (by simp [hwords])⟩

/-- A sign names a property whose name does not stand in the text. -/
theorem sign_names_property :
    compile "x.&&" = .ok (.member (.reference "x") "and") ∧
      Word.property "and" ∈ (Expr.member (.reference "x") "and").words ∧
      ¬ "and".toList <:+: "x.&&".toList := by
  refine ⟨by with_unfolding_all rfl, by decide, by decide⟩

end SheetFormula.Formula

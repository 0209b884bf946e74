import SheetFormula.Proofs.Formula.Grammar
import Mathlib.Data.Nat.Notation
import Mathlib.Tactic.Common

/-!
# What the parser reads is derived by the grammar

Each rule of the parser, run with some levels of nesting left, reads a phrase of its category: the
tokens of the phrase are those in front of the rest, its tree is the value that is returned, and
its need is at most the number of levels left. The statements for all rules of one level are
bundled in `Grammar.Sound`, and the bundle is carried from one level to the next looser one.

## Main definitions

* `SheetFormula.Formula.Parsed.IsPhrase` — what was read is a phrase of a category.
* `SheetFormula.Formula.Grammar.Sound` — all rules of a level read phrases.

## Main results

* `SheetFormula.Formula.grammar_sound` — the rules of every level read phrases.
* `SheetFormula.Formula.derives_of_parse` — the tree of a formula is derived from its tokens, with
  a need below the nesting limit.
-/

set_option relaxedAutoImplicit false
set_option autoImplicit false

namespace SheetFormula.Formula

/-! ## Outcomes -/

/-- A step and what goes on from it succeed one after the other. -/
lemma of_bind_eq_ok {ε α β : Type} {first : Except ε α} {next : α → Except ε β} {result : β}
    (h : first >>= next = .ok result) : ∃ value, first = .ok value ∧ next value = .ok result := by
  cases first with
  | error fault => cases h
  | ok value => exact ⟨value, rfl, h⟩

/-- A step succeeds whatever a failure of it is reported as. -/
lemma of_mapError_eq_ok {ε ε' α : Type} {step : Except ε α} {report : ε → ε'} {result : α}
    (h : step.mapError report = .ok result) : step = .ok result := by
  cases step with
  | error fault => cases h
  | ok value =>
    cases h
    rfl

/-- An expected token was there, and what was read stays the same. -/
lemma expect_eq_ok {α : Type} {tokens : List Token} {expected : Token → Bool} {fault : ParseFault}
    {parsed closed : Parsed α tokens} (h : expect expected fault parsed = .ok closed) :
    ∃ token, expected token ∧ parsed.rest = token :: closed.rest ∧ closed.value = parsed.value := by
  unfold expect at h
  split at h
  · simp at h
  · next token rest hrest =>
    split at h
    · next hexpected =>
      cases h
      exact ⟨token, hexpected, hrest, rfl⟩
    · simp at h

/-- The only token that closes a parenthesis. -/
lemma eq_closeParen {token : Token} (h : token.closesParen) : token = .closeParen := by
  cases token <;> first | rfl | cases h

/-- The only token that closes a bracket. -/
lemma eq_closeBracket {token : Token} (h : token.closesBracket) : token = .closeBracket := by
  cases token <;> first | rfl | cases h

/-- The only token that separates branches. -/
lemma eq_colon {token : Token} (h : token.isColon) : token = .colon := by
  cases token <;> first | rfl | cases h

/-! ## Phrases that were read -/

/-- What was read at the head of some tokens is a phrase of a category, of a bounded need. -/
def Parsed.IsPhrase {tokens : List Token} (parsed : Parsed Expr tokens) (category : Category)
    (limit : ℕ) : Prop :=
  ∃ phrase, Derives category phrase ∧ phrase.tokens ++ parsed.rest = tokens ∧
    phrase.value = parsed.value ∧ phrase.need ≤ limit

/-- From one parsed value to another, some links of a chain were read. -/
def Parsed.HasLinks {tokens : List Token} (left parsed : Parsed Expr tokens)
    (level : List Operator) (tighter : List (List Operator)) (limit : ℕ) : Prop :=
  ∃ links : List Link, (∀ link ∈ links, link.op ∈ level) ∧
    (∀ link ∈ links, Derives (.chain tighter) link.operand) ∧
    left.rest = links.flatMap Link.tokens ++ parsed.rest ∧
    parsed.value = links.foldl Link.attach left.value ∧
    needInTurn (links.map fun link => link.operand.need) ≤ limit

/-- From one parsed value to another, some suffixes were read. -/
def Parsed.HasSuffixes {tokens : List Token} (object parsed : Parsed Expr tokens)
    (limit : ℕ) : Prop :=
  ∃ suffixes : List Suffix, (∀ key, Suffix.key key ∈ suffixes → Derives .conditional key) ∧
    (∀ token name, Suffix.property token name ∈ suffixes → NamesProperty token name) ∧
    object.rest = suffixes.flatMap Suffix.tokens ++ parsed.rest ∧
    parsed.value = suffixes.foldl Suffix.attach object.value ∧
    needInTurn (suffixes.map Suffix.need) ≤ limit

/-- A rule reads conditionals that stand one level deeper. -/
def ReadsInside (limit : ℕ) (rule : Rule Expr) : Prop :=
  ∀ tokens parsed, rule tokens = .ok parsed →
    ∃ below, limit = below + 1 ∧ parsed.IsPhrase .conditional below

/-- All rules of a grammar read phrases that need at most the levels left. -/
structure Grammar.Sound (limit : ℕ) (grammar : Grammar) : Prop where
  conditional : ∀ tokens parsed, grammar.conditional tokens = .ok parsed →
    parsed.IsPhrase .conditional limit
  chain : ∀ levels tokens parsed, grammar.chain levels tokens = .ok parsed →
    parsed.IsPhrase (.chain levels) limit
  chainRest : ∀ level tighter tokens (left parsed : Parsed Expr tokens),
    grammar.chainRest level tighter left = .ok parsed → left.HasLinks parsed level tighter limit
  unary : ∀ tokens parsed, grammar.unary tokens = .ok parsed → parsed.IsPhrase .unary limit
  suffixes : ∀ tokens (object parsed : Parsed Expr tokens),
    grammar.suffixes none object = .ok parsed → object.HasSuffixes parsed limit
  expression : ReadsInside limit grammar.expression

/-- The next deeper rules, if a level is left, read phrases that need one level less. -/
def SoundBelow (limit : ℕ) (nested : Option Grammar) : Prop :=
  ∀ grammar ∈ nested, ∃ below, limit = below + 1 ∧ grammar.Sound below

variable {limit : ℕ} {nested : Option Grammar} {inside : Rule Expr} {tokens : List Token}

/-- What succeeds one level deeper does so with the rules of that level. -/
lemma SoundBelow.of_deeper {α : Type} (hnested : SoundBelow limit nested) {left : ℕ}
    {go : Grammar → Except Stop α} {result : α} (h : deeper nested left go = .ok result) :
    ∃ grammar below, limit = below + 1 ∧ grammar.Sound below ∧ go grammar = .ok result := by
  cases hgrammar : nested with
  | none => simp [deeper, hgrammar] at h
  | some grammar =>
    obtain ⟨below, hlimit, hsound⟩ := hnested grammar (by simp [hgrammar])
    rw [hgrammar] at h
    exact ⟨grammar, below, hlimit, hsound, h⟩

/-! ## Words -/

/-- The constants of the parser are those of the grammar. -/
lemma constant?_eq_some {name : String} {value : Expr} (h : constant? name = some value) :
    (name, value) ∈ constants := by
  unfold constant? at h
  split_ifs at h with h₁ h₂ h₃ h₄
  · rcases h₁ with rfl | rfl <;> cases h <;> simp [constants]
  · rcases h₂ with rfl | rfl <;> cases h <;> simp [constants]
  · cases h; simp [constants, h₃]
  · cases h; simp [constants, h₄]

/-- The names that the parser takes for no constant are free. -/
lemma constant?_eq_none {name : String} (h : constant? name = none) : IsFreeName name := by
  intro value hvalue
  simp only [constants, List.mem_cons, Prod.mk.injEq, List.not_mem_nil, or_false] at hvalue
  rcases hvalue with ⟨rfl, _⟩ | ⟨rfl, _⟩ | ⟨rfl, _⟩ | ⟨rfl, _⟩ | ⟨rfl, _⟩ | ⟨rfl, _⟩ <;>
    simp [constant?] at h

/-- A name is a primary. -/
lemma derives_ofName (name : String) : Derives .primary ⟨[.name name], ofName name, 0⟩ := by
  unfold ofName
  cases h : constant? name with
  | none => exact .reference (constant?_eq_none h)
  | some value => exact .constant (constant?_eq_some h)

/-- A property that was read is named by its token. -/
lemma property_eq_ok {parsed : Parsed String tokens} (h : property tokens = .ok parsed) :
    ∃ token, NamesProperty token parsed.value ∧ tokens = token :: parsed.rest := by
  unfold property at h
  split at h
  · simp at h
  · next token rest =>
    split at h
    · next name => cases h; exact ⟨_, .name name, rfl⟩
    · next op =>
      split at h
      · cases h
        refine ⟨_, ?_, rfl⟩
        cases op <;> simp_all [Operator.isWord]
        · exact .and
        · exact .or
        · exact .not
      · simp at h
    · simp at h

/-! ## Primaries and suffixes -/

/-- An expression is a conditional one level deeper. -/
lemma expression_sound (hnested : SoundBelow limit nested) :
    ReadsInside limit (expression nested) := by
  intro tokens parsed h
  obtain ⟨grammar, below, hlimit, hsound, hgo⟩ := hnested.of_deeper h
  exact ⟨below, hlimit, hsound.conditional _ _ hgo⟩

/-- What is read as a primary is one. -/
lemma primary_sound (hinside : ReadsInside limit inside) {parsed : Parsed Expr tokens}
    (h : primary inside tokens = .ok parsed) : parsed.IsPhrase .primary limit := by
  unfold primary at h
  split at h
  · cases h
  · next value rest => cases h; exact ⟨_, .number value, rfl, rfl, Nat.zero_le _⟩
  · next value rest => cases h; exact ⟨_, .text value, rfl, rfl, Nat.zero_le _⟩
  · next name rest => cases h; exact ⟨_, derives_ofName name, rfl, rfl, Nat.zero_le _⟩
  · next rest =>
    obtain ⟨inner, hinner, h⟩ := of_bind_eq_ok h
    obtain ⟨closed, hclosed, h⟩ := of_bind_eq_ok h
    cases h
    obtain ⟨below, rfl, phrase, hphrase, htokens, hvalue, hneed⟩ := hinside _ inner hinner
    obtain ⟨token, htoken, hrest, hsame⟩ := expect_eq_ok hclosed
    obtain rfl := eq_closeParen htoken
    refine ⟨_, .group hphrase, ?_, ?_, Nat.succ_le_succ hneed⟩
    · simp [Parsed.widen, ← htokens, hrest]
    · simp [Parsed.widen, hvalue, hsame]
  · cases h

/-- What is read between commas are conditionals one level deeper. -/
lemma commaSeparated_sound (hinside : ReadsInside limit inside) :
    ∀ (tokens : List Token) (parsed : Parsed (List Expr) tokens),
      commaSeparated inside tokens = .ok parsed →
      ∃ arguments : List Phrase, arguments ≠ [] ∧
        (∀ argument ∈ arguments, Derives .conditional argument) ∧
        argumentTokens arguments ++ parsed.rest = tokens ∧
        arguments.map Phrase.value = parsed.value ∧ needOfAll arguments ≤ limit := by
  intro tokens
  induction hlength : tokens.length using Nat.strongRecOn generalizing tokens with
  | ind length ih =>
    intro parsed h
    rw [commaSeparated] at h
    obtain ⟨first, hfirst, h⟩ := of_bind_eq_ok h
    obtain ⟨below, rfl, phrase, hphrase, htokens, hvalue, hneed⟩ := hinside _ first hfirst
    split at h
    · next rest hrest =>
      obtain ⟨more, hmore, h⟩ := of_bind_eq_ok h
      cases h
      have hshorter : rest.length < length := by
        have := first.shorter
        simp only [hrest, List.length_cons] at this
        omega
      obtain ⟨arguments, hne, harguments, hmoreTokens, hvalues, hneeds⟩ :=
        ih rest.length hshorter rest rfl more hmore
      obtain ⟨second, others, rfl⟩ := List.exists_cons_of_ne_nil hne
      refine ⟨phrase :: second :: others, by simp, ?_, ?_, ?_, ?_⟩
      · simpa using ⟨hphrase, by simpa using harguments⟩
      · calc argumentTokens (phrase :: second :: others) ++ more.rest
            = phrase.tokens ++ .comma :: (argumentTokens (second :: others) ++ more.rest) := by
              simp
          _ = phrase.tokens ++ first.rest := by rw [hmoreTokens, hrest]
          _ = tokens := htokens
      · simp [Parsed.map, Parsed.widen, hvalue, ← hvalues]
      · exact Nat.max_le.mpr ⟨Nat.succ_le_succ hneed, hneeds⟩
    · cases h
      refine ⟨[phrase], by simp, by simpa using hphrase, ?_, ?_, ?_⟩
      · simpa [Parsed.map] using htokens
      · simp [Parsed.map, hvalue]
      · simpa using hneed

/-- What is read as arguments are conditionals one level deeper, and a closing parenthesis. -/
lemma arguments_sound (hinside : ReadsInside limit inside) {parsed : Parsed (List Expr) tokens}
    (h : arguments inside tokens = .ok parsed) :
    ∃ list : List Phrase, (∀ argument ∈ list, Derives .conditional argument) ∧
      argumentTokens list ++ .closeParen :: parsed.rest = tokens ∧
      list.map Phrase.value = parsed.value ∧ needOfAll list ≤ limit := by
  unfold arguments at h
  split at h
  · cases h
    exact ⟨[], by simp, rfl, rfl, Nat.zero_le _⟩
  · obtain ⟨separated, hseparated, h⟩ := of_bind_eq_ok h
    obtain ⟨list, -, hlist, htokens, hvalues, hneeds⟩ :=
      commaSeparated_sound hinside _ separated hseparated
    obtain ⟨token, htoken, hrest, hsame⟩ := expect_eq_ok h
    obtain rfl := eq_closeParen htoken
    exact ⟨list, hlist, by rw [← hrest, htokens], hvalues.trans hsame.symm, hneeds⟩

/-- Only a parenthesis makes a difference between a name that can be called and another
expression. -/
lemma suffixes_eq_none (callee : Option String) {object : Parsed Expr tokens}
    (h : ∀ rest, object.rest ≠ .openParen :: rest) :
    suffixes nested callee object = suffixes nested none object := by
  unfold suffixes
  split
  · next token rest hrest =>
    cases token with
    | openParen => exact absurd hrest (h rest)
    | _ => rfl
  · rfl

/-- What is read behind an expression that cannot be called are suffixes. -/
lemma suffixes_sound (hnested : SoundBelow limit nested) {object parsed : Parsed Expr tokens}
    (h : suffixes nested none object = .ok parsed) : object.HasSuffixes parsed limit := by
  have hnone : object.HasSuffixes object limit :=
    ⟨[], by simp, by simp, by simp, rfl, Nat.zero_le _⟩
  unfold suffixes at h
  split at h
  · next token rest hrest =>
    cases token with
    | openParen =>
      obtain ⟨grammar, below, -, -, h⟩ := hnested.of_deeper h
      obtain ⟨list, -, h⟩ := of_bind_eq_ok h
      cases h
    | openBracket =>
      obtain ⟨grammar, below, rfl, hsound, h⟩ := hnested.of_deeper h
      obtain ⟨key, hkey, h⟩ := of_bind_eq_ok h
      obtain ⟨closed, hclosed, h⟩ := of_bind_eq_ok h
      obtain ⟨inner, rfl, phrase, hphrase, htokens, hvalue, hneed⟩ := hsound.expression _ key hkey
      obtain ⟨token, htoken, hclosedRest, hsame⟩ := expect_eq_ok hclosed
      obtain rfl := eq_closeBracket htoken
      obtain ⟨suffixes, hkeys, hnames, hmore, hfold, hneeds⟩ := hsound.suffixes _ _ _ h
      refine ⟨.key phrase :: suffixes, ?_, ?_, ?_, ?_, ?_⟩
      · simpa using ⟨hphrase, hkeys⟩
      · simpa using hnames
      · have hmore' : closed.rest = suffixes.flatMap Suffix.tokens ++ parsed.rest := hmore
        rw [hrest, ← htokens, hclosedRest, hmore']
        simp [Suffix.tokens]
      · simpa [Suffix.attach, Parsed.map, Parsed.widen, hvalue, hsame] using hfold
      · exact Nat.succ_le_succ (Nat.max_le.mpr ⟨Nat.succ_le_succ hneed, hneeds⟩)
    | dot =>
      obtain ⟨grammar, below, rfl, hsound, h⟩ := hnested.of_deeper h
      obtain ⟨name, hname, h⟩ := of_bind_eq_ok h
      obtain ⟨token, htoken, htokens⟩ := property_eq_ok hname
      obtain ⟨suffixes, hkeys, hnames, hmore, hfold, hneeds⟩ := hsound.suffixes _ _ _ h
      refine ⟨.property token name.value :: suffixes, ?_, ?_, ?_, ?_, ?_⟩
      · simpa using hkeys
      · rintro token' name' hmem
        rcases List.mem_cons.mp hmem with hhead | htail
        · cases hhead; exact htoken
        · exact hnames _ _ htail
      · have hmore' : name.rest = suffixes.flatMap Suffix.tokens ++ parsed.rest := hmore
        calc object.rest = .dot :: token :: name.rest := by rw [hrest]; exact congrArg _ htokens
          _ = _ := by rw [hmore']; simp [Suffix.tokens]
      · exact hfold
      · simpa [Suffix.need] using hneeds
    | _ => cases h; exact hnone
  · cases h; exact hnone

/-- The head of some tokens can be called if it is a free name. -/
lemma callee?_eq_some {name : String} (h : callee? tokens = some name) :
    ∃ rest, tokens = .name name :: rest ∧ IsFreeName name := by
  unfold callee? at h
  split at h
  · next name' rest =>
    split_ifs at h with hfree
    cases h
    exact ⟨rest, rfl, constant?_eq_none (Option.isNone_iff_eq_none.mp hfree)⟩
  · cases h

/-- What is read behind a name and a parenthesis are the arguments of a call and suffixes. -/
lemma called_sound (hnested : SoundBelow limit nested) {name : String} (hname : IsFreeName name)
    {object parsed : Parsed Expr tokens} {rest : List Token}
    (hrest : object.rest = .openParen :: rest)
    (htokens : tokens = .name name :: object.rest)
    (h : suffixes nested (some name) object = .ok parsed) : parsed.IsPhrase .access limit := by
  obtain ⟨value, objectRest, shorter⟩ := object
  subst hrest
  obtain ⟨grammar, below, rfl, hsound, h⟩ := hnested.of_deeper h
  obtain ⟨list, hlist, h⟩ := of_bind_eq_ok h
  obtain ⟨arguments, harguments, hlistTokens, hvalues, hargumentsNeed⟩ :=
    arguments_sound hsound.expression hlist
  obtain ⟨suffixes, hkeys, hnames, hmore, hfold, hneeds⟩ := hsound.suffixes _ _ _ h
  have hmore' : list.rest = suffixes.flatMap Suffix.tokens ++ parsed.rest := hmore
  refine ⟨_, .called hname harguments hkeys hnames, ?_, ?_, ?_⟩
  · calc _ = .name name :: .openParen :: (argumentTokens arguments ++
            .closeParen :: (suffixes.flatMap Suffix.tokens ++ parsed.rest)) := by simp
      _ = .name name :: .openParen :: rest := by rw [← hmore', hlistTokens]
      _ = tokens := htokens.symm
  · rw [hfold, hvalues]
    rfl
  · exact Nat.succ_le_succ (Nat.max_le.mpr ⟨hargumentsNeed, hneeds⟩)

/-! ## Operators and branches -/

/-- What is read as a primary with its suffixes is one, or a call with its suffixes. -/
lemma suffixed_sound (hnested : SoundBelow limit nested) {parsed : Parsed Expr tokens}
    (h : suffixed nested tokens = .ok parsed) : parsed.IsPhrase .access limit := by
  obtain ⟨head, hhead, h⟩ := of_bind_eq_ok h
  obtain ⟨phrase, hphrase, htokens, hvalue, hneed⟩ :=
    primary_sound (expression_sound hnested) hhead
  have of_none (h : suffixes nested none head = .ok parsed) : parsed.IsPhrase .access limit := by
    obtain ⟨suffixes, hkeys, hnames, hmore, hfold, hneeds⟩ := suffixes_sound hnested h
    refine ⟨_, .suffixed hphrase hkeys hnames, ?_, ?_, Nat.max_le.mpr ⟨hneed, hneeds⟩⟩
    · rw [List.append_assoc, ← hmore, htokens]
    · rw [hfold, hvalue]
  cases hcallee : callee? tokens with
  | none => exact of_none (by rwa [hcallee] at h)
  | some name =>
    rw [hcallee] at h
    by_cases hopen : ∃ rest, head.rest = .openParen :: rest
    · obtain ⟨rest, hrest⟩ := hopen
      obtain ⟨behind, rfl, hname⟩ := callee?_eq_some hcallee
      cases hhead
      exact called_sound hnested hname hrest rfl h
    · exact of_none (by rwa [suffixes_eq_none _ (not_exists.mp hopen)] at h)

/-- What is read as a power is one. -/
lemma power_sound (hnested : SoundBelow limit nested) {parsed : Parsed Expr tokens}
    (h : power nested tokens = .ok parsed) : parsed.IsPhrase .power limit := by
  obtain ⟨base, hbase, h⟩ := of_bind_eq_ok h
  obtain ⟨phrase, hphrase, htokens, hvalue, hneed⟩ := suffixed_sound hnested hbase
  split at h
  · next rest hrest =>
    obtain ⟨grammar, below, rfl, hsound, h⟩ := hnested.of_deeper h
    obtain ⟨exponent, hexponent, h⟩ := of_bind_eq_ok h
    cases h
    obtain ⟨right, hright, hrightTokens, hrightValue, hrightNeed⟩ := hsound.unary _ _ hexponent
    refine ⟨_, .raised hphrase hright, ?_, ?_,
      Nat.max_le.mpr ⟨hneed, Nat.succ_le_succ hrightNeed⟩⟩
    · calc _ = phrase.tokens ++ .operator .power :: (right.tokens ++ exponent.rest) := by
            simp [Parsed.map, Parsed.widen]
        _ = phrase.tokens ++ base.rest := by rw [hrightTokens, hrest]
        _ = tokens := htokens
    · simp [Parsed.map, Parsed.widen, hvalue, hrightValue]
  · cases h
    exact ⟨phrase, .unraised hphrase, htokens, hvalue, hneed⟩

/-- What is read as a unary is one. -/
lemma unary_sound (hnested : SoundBelow limit nested) {parsed : Parsed Expr tokens}
    (h : unary nested tokens = .ok parsed) : parsed.IsPhrase .unary limit := by
  have of_power (h : power nested tokens = .ok parsed) : parsed.IsPhrase .unary limit := by
    obtain ⟨phrase, hphrase, hrest⟩ := power_sound hnested h
    exact ⟨phrase, .unsigned hphrase, hrest⟩
  unfold unary at h
  split at h
  · next op rest =>
    split_ifs at h with hop
    · obtain ⟨grammar, below, rfl, hsound, h⟩ := hnested.of_deeper h
      obtain ⟨operand, hoperand, h⟩ := of_bind_eq_ok h
      cases h
      obtain ⟨phrase, hphrase, htokens, hvalue, hneed⟩ := hsound.unary _ _ hoperand
      refine ⟨_, .signed hop hphrase, ?_, ?_, Nat.succ_le_succ hneed⟩
      · simp [Parsed.map, Parsed.widen, htokens]
      · simp [Parsed.map, Parsed.widen, hvalue]
    · exact of_power h
  · exact of_power h

/-- What is read behind an operand are links of a chain. -/
lemma chainRest_sound (hnested : SoundBelow limit nested) {level : Level} {tighter : List Level}
    {left parsed : Parsed Expr tokens} (h : chainRest nested level tighter left = .ok parsed) :
    left.HasLinks parsed level tighter limit := by
  have hnone : left.HasLinks left level tighter limit :=
    ⟨[], by simp, by simp, by simp, rfl, Nat.zero_le _⟩
  unfold chainRest at h
  split at h
  · next op rest hrest =>
    split_ifs at h with hop
    · obtain ⟨grammar, below, rfl, hsound, h⟩ := hnested.of_deeper h
      obtain ⟨right, hright, h⟩ := of_bind_eq_ok h
      obtain ⟨phrase, hphrase, htokens, hvalue, hneed⟩ := hsound.chain _ _ _ hright
      obtain ⟨links, hlevel, hlinks, hmore, hfold, hneeds⟩ := hsound.chainRest _ _ _ _ _ h
      have hmore' : right.rest = links.flatMap Link.tokens ++ parsed.rest := hmore
      refine ⟨⟨op, phrase⟩ :: links, ?_, ?_, ?_, ?_, ?_⟩
      · simpa using ⟨hop, hlevel⟩
      · simpa using ⟨hphrase, hlinks⟩
      · rw [hrest, ← htokens, hmore']
        simp [Link.tokens]
      · simpa [Link.attach, Parsed.map, Parsed.widen, hvalue] using hfold
      · exact Nat.succ_le_succ (Nat.max_le.mpr ⟨hneed, hneeds⟩)
    · cases h; exact hnone
  · cases h; exact hnone

/-- What is read as a chain of some levels is one. The induction is on the levels. -/
lemma chain_sound (hnested : SoundBelow limit nested) (levels : List Level)
    {parsed : Parsed Expr tokens} (h : chain nested levels tokens = .ok parsed) :
    parsed.IsPhrase (.chain levels) limit := by
  induction levels generalizing parsed with
  | nil =>
    obtain ⟨phrase, hphrase, hrest⟩ := unary_sound hnested h
    exact ⟨phrase, .operand hphrase, hrest⟩
  | cons level tighter ih =>
    obtain ⟨first, hfirst, h⟩ := of_bind_eq_ok h
    obtain ⟨phrase, hphrase, htokens, hvalue, hneed⟩ := ih hfirst
    obtain ⟨links, hlevel, hlinks, hmore, hfold, hneeds⟩ := chainRest_sound hnested h
    refine ⟨_, .chain hphrase hlevel hlinks, ?_, ?_, Nat.max_le.mpr ⟨hneed, hneeds⟩⟩
    · rw [List.append_assoc, ← hmore, htokens]
    · rw [hfold, hvalue]

/-- What is read as a conditional is one. -/
lemma conditional_sound (hnested : SoundBelow limit nested) {parsed : Parsed Expr tokens}
    (h : conditional nested tokens = .ok parsed) : parsed.IsPhrase .conditional limit := by
  obtain ⟨condition, hcondition, h⟩ := of_bind_eq_ok h
  obtain ⟨phrase, hphrase, htokens, hvalue, hneed⟩ := chain_sound hnested levels hcondition
  split at h
  · next rest hrest =>
    obtain ⟨grammar, below, rfl, hsound, h⟩ := hnested.of_deeper h
    obtain ⟨whenTrue, hwhenTrue, h⟩ := of_bind_eq_ok h
    obtain ⟨separated, hseparated, h⟩ := of_bind_eq_ok h
    obtain ⟨whenFalse, hwhenFalse, h⟩ := of_bind_eq_ok h
    cases h
    obtain ⟨token, htoken, hcolon, hsame⟩ := expect_eq_ok hseparated
    obtain rfl := eq_colon htoken
    obtain ⟨left, hleft, hleftTokens, hleftValue, hleftNeed⟩ := hsound.conditional _ _ hwhenTrue
    obtain ⟨right, hright, hrightTokens, hrightValue, hrightNeed⟩ :=
      hsound.conditional _ _ hwhenFalse
    refine ⟨_, .choice hphrase hleft hright, ?_, ?_,
      Nat.max_le.mpr ⟨hneed, Nat.succ_le_succ (Nat.max_le.mpr ⟨hleftNeed, hrightNeed⟩)⟩⟩
    · calc _ = phrase.tokens ++ .question ::
              (left.tokens ++ .colon :: (right.tokens ++ whenFalse.rest)) := by
            simp [Parsed.map, Parsed.widen]
        _ = phrase.tokens ++ condition.rest := by
            rw [hrightTokens, ← hcolon, hleftTokens, hrest]
        _ = tokens := htokens
    · simp [Parsed.map, Parsed.widen, hvalue, hleftValue, hrightValue, hsame]
  · cases h
    exact ⟨phrase, .plain hphrase, htokens, hvalue, hneed⟩

/-! ## The grammar -/

/-- The rules of one level are sound if those of the next deeper one are. -/
lemma build_sound (hnested : SoundBelow limit nested) : (build nested).Sound limit where
  conditional _ _ := conditional_sound hnested
  chain levels _ _ := chain_sound hnested levels
  chainRest _ _ _ _ _ := chainRest_sound hnested
  unary _ _ := unary_sound hnested
  suffixes _ _ _ := suffixes_sound hnested
  expression := expression_sound hnested

/-- **The rules of every level are sound.**

**Proof sketch.** Induction on the levels left. With none left there are no deeper rules, and every
step that asks for them fails; with one more, the deeper rules are sound by induction. -/
theorem grammar_sound (limit : ℕ) : (grammar limit).Sound limit := by
  induction limit with
  | zero => exact build_sound fun grammar h => by cases h
  | succ below ih =>
    refine build_sound fun deeper h => ⟨below, rfl, ?_⟩
    cases h
    exact ih

/-- A result of `parse` is one of `parseAll`, whose failures only have their places counted from
the other end. -/
lemma parseAll_of_parse {expr : Expr} (h : parse tokens = .ok expr) :
    parseAll tokens = .ok expr :=
  of_mapError_eq_ok h

/-- The tree of a formula is derived from its tokens, with a need below the nesting limit. -/
theorem derives_of_parse {expr : Expr} (h : parse tokens = .ok expr) :
    ∃ need, need < maxDepth ∧ Derives .conditional ⟨tokens, expr, need⟩ := by
  have hall := parseAll_of_parse h
  unfold parseAll at hall
  split at hall
  · cases hall
  · obtain ⟨parsed, hparsed, hall⟩ := of_bind_eq_ok hall
    obtain ⟨below, hlimit, phrase, hphrase, htokens, hvalue, hneed⟩ :=
      (grammar_sound maxDepth).expression _ _ hparsed
    split at hall
    · next hrest =>
      cases hall
      refine ⟨phrase.need, by omega, ?_⟩
      rwa [← hvalue, ← htokens, hrest, List.append_nil]
    · cases hall

end SheetFormula.Formula

import SheetFormula.Proofs.Formula.Completeness
import Mathlib.Data.Nat.Notation
import Mathlib.Tactic.Common

/-!
# What the parser reads is read to its end

A rule goes on for as long as it can: behind what it has read there is no token that would be read
as more of it. So the tokens that were read and the one behind them decide about the reading. On
all tokens that begin in the same way, up to that one, the rule reads the same tree, or refuses it
as nested too deeply.

## Main definitions

* `SheetFormula.Formula.Grammar.Finishes` — all rules of a level read to the end.

## Main results

* `SheetFormula.Formula.grammar_finishes` — the rules of every level read to the end.
* `SheetFormula.Formula.ruleOf_eq_ok_iff` — a rule reads the phrases that end where it stops.
* `SheetFormula.Formula.answers_of_ruleOf_eq_ok` — what a rule reads hangs on the tokens that it
  takes and the one behind them.
-/

set_option relaxedAutoImplicit false
set_option autoImplicit false

namespace SheetFormula.Formula

/-! ## Where parts of phrases end -/

/-- Whether tokens stop a phrase hangs on the first one of them. -/
lemma Stops.congr {category : Category} {rest rest' : List Token} (h : Stops category rest)
    (hhead : rest'.head? = rest.head?) : Stops category rest' := by
  unfold Stops
  rwa [hhead]

/-- A chain ends where its last operand does, unless an operator of its level follows. -/
lemma Stops.chain_of_tighter {level : Level} {tighter : List Level} {rest : List Token}
    (h : Stops (.chain tighter) rest)
    (hlevel : ∀ op more, rest = .operator op :: more → op ∉ level) :
    Stops (.chain (level :: tighter)) rest := by
  cases rest with
  | nil => exact stops_nil _
  | cons token more =>
    rw [stops_cons] at h ⊢
    cases token with
    | operator op =>
      have hop := hlevel op more rfl
      simp only [Category.CanGoOn, List.flatten_cons, List.mem_append] at h ⊢
      tauto
    | question => simp [Category.CanGoOn]
    | openParen | openBracket | dot => simp [Category.CanGoOn] at h
    | _ => exact h

/-- A power ends where its base does, unless an exponent follows. -/
lemma Stops.power_of_access {rest : List Token} (h : Stops .access rest)
    (hpower : ∀ more, rest ≠ .operator .power :: more) : Stops .power rest := by
  cases rest with
  | nil => exact stops_nil _
  | cons token more =>
    rw [stops_cons] at h ⊢
    cases token with
    | operator op =>
      rintro rfl
      exact hpower more rfl
    | question => simp [Category.CanGoOn]
    | openParen | openBracket | dot => simp [Category.CanGoOn] at h
    | _ => exact h

/-- A conditional ends where its chain does, unless branches follow. -/
lemma Stops.conditional_of_chain {rest : List Token} (h : Stops (.chain formulaLevels) rest)
    (hquestion : ∀ more, rest ≠ .question :: more) : Stops .conditional rest := by
  cases rest with
  | nil => exact stops_nil _
  | cons token more =>
    rw [stops_cons] at h ⊢
    cases token with
    | question => exact absurd rfl (hquestion more)
    | openParen | openBracket | dot => simp [Category.CanGoOn] at h
    | _ => exact h

/-- What is no suffix stops an expression that suffixes may follow. -/
lemma stops_access {rest : List Token} (hparen : ∀ more, rest ≠ .openParen :: more)
    (hbracket : ∀ more, rest ≠ .openBracket :: more) (hdot : ∀ more, rest ≠ .dot :: more) :
    Stops .access rest := by
  cases rest with
  | nil => exact stops_nil _
  | cons token more =>
    rw [stops_cons]
    cases token with
    | openParen => exact absurd rfl (hparen more)
    | openBracket => exact absurd rfl (hbracket more)
    | dot => exact absurd rfl (hdot more)
    | _ => simp [Category.CanGoOn]

/-! ## Rules read to the end -/

/-- All rules of a grammar stop where they cannot go on. -/
structure Grammar.Finishes (grammar : Grammar) : Prop where
  conditional : ∀ tokens parsed, grammar.conditional tokens = .ok parsed →
    Stops .conditional parsed.rest
  chain : ∀ levels tokens parsed, grammar.chain levels tokens = .ok parsed →
    Stops (.chain levels) parsed.rest
  chainRest : ∀ level tighter tokens (left parsed : Parsed Expr tokens),
    Stops (.chain tighter) left.rest → grammar.chainRest level tighter left = .ok parsed →
    Stops (.chain (level :: tighter)) parsed.rest
  unary : ∀ tokens parsed, grammar.unary tokens = .ok parsed → Stops .unary parsed.rest
  suffixes : ∀ tokens (object parsed : Parsed Expr tokens),
    grammar.suffixes none object = .ok parsed → Stops .access parsed.rest

/-- The next deeper rules, if there are any, read to the end. -/
def FinishBelow (nested : Option Grammar) : Prop :=
  ∀ grammar ∈ nested, grammar.Finishes

variable {nested : Option Grammar} {tokens : List Token}

/-- What succeeds one level deeper does so with the rules of that level. -/
lemma FinishBelow.of_deeper {α : Type} (hnested : FinishBelow nested) {left : ℕ}
    {go : Grammar → Except Stop α} {result : α} (h : deeper nested left go = .ok result) :
    ∃ grammar : Grammar, grammar.Finishes ∧ go grammar = .ok result := by
  cases hgrammar : nested with
  | none => simp [deeper, hgrammar] at h
  | some grammar =>
    rw [hgrammar] at h
    exact ⟨grammar, hnested grammar (by simp [hgrammar]), h⟩

/-- Suffixes are read until there are no more. -/
lemma suffixes_finishes (hnested : FinishBelow nested) (callee : Option String)
    {object parsed : Parsed Expr tokens} (h : suffixes nested callee object = .ok parsed) :
    Stops .access parsed.rest := by
  unfold suffixes at h
  split at h
  · next token rest hrest =>
    cases token with
    | openParen =>
      obtain ⟨grammar, hfinishes, h⟩ := hnested.of_deeper h
      obtain ⟨list, -, h⟩ := of_bind_eq_ok h
      cases callee with
      | none => cases h
      | some name => exact hfinishes.suffixes _ _ _ h
    | openBracket =>
      obtain ⟨grammar, hfinishes, h⟩ := hnested.of_deeper h
      obtain ⟨key, -, h⟩ := of_bind_eq_ok h
      obtain ⟨closed, -, h⟩ := of_bind_eq_ok h
      exact hfinishes.suffixes _ _ _ h
    | dot =>
      obtain ⟨grammar, hfinishes, h⟩ := hnested.of_deeper h
      obtain ⟨name, -, h⟩ := of_bind_eq_ok h
      exact hfinishes.suffixes _ _ _ h
    | _ =>
      cases h
      exact stops_access (by simp [hrest]) (by simp [hrest]) (by simp [hrest])
  · next hrest =>
    cases h
    rw [hrest]
    exact stops_nil _

/-- A primary is read with all of its suffixes. -/
lemma suffixed_finishes (hnested : FinishBelow nested) {parsed : Parsed Expr tokens}
    (h : suffixed nested tokens = .ok parsed) : Stops .access parsed.rest := by
  obtain ⟨head, -, h⟩ := of_bind_eq_ok h
  exact suffixes_finishes hnested (callee? tokens) h

/-- A power is read with its exponent. -/
lemma power_finishes (hnested : FinishBelow nested) {parsed : Parsed Expr tokens}
    (h : power nested tokens = .ok parsed) : Stops .power parsed.rest := by
  obtain ⟨base, hbase, h⟩ := of_bind_eq_ok h
  split at h
  · next rest hrest =>
    obtain ⟨grammar, hfinishes, h⟩ := hnested.of_deeper h
    obtain ⟨exponent, hexponent, h⟩ := of_bind_eq_ok h
    cases h
    exact (hfinishes.unary _ _ hexponent).power_of_unary
  · next hpower =>
    cases h
    exact (suffixed_finishes hnested hbase).power_of_access fun more heq => hpower more heq

/-- A unary is read to its end. -/
lemma unary_finishes (hnested : FinishBelow nested) {parsed : Parsed Expr tokens}
    (h : unary nested tokens = .ok parsed) : Stops .unary parsed.rest := by
  unfold unary at h
  split at h
  · next op rest =>
    split_ifs at h with hop
    · obtain ⟨grammar, hfinishes, h⟩ := hnested.of_deeper h
      obtain ⟨operand, hoperand, h⟩ := of_bind_eq_ok h
      cases h
      have hends := hfinishes.unary _ operand hoperand
      exact hends
    · exact (power_finishes hnested h).unary_of_power
  · exact (power_finishes hnested h).unary_of_power

/-- The links of a chain are read until there are no more. -/
lemma chainRest_finishes (hnested : FinishBelow nested) {level : Level} {tighter : List Level}
    {left parsed : Parsed Expr tokens} (hleft : Stops (.chain tighter) left.rest)
    (h : chainRest nested level tighter left = .ok parsed) :
    Stops (.chain (level :: tighter)) parsed.rest := by
  unfold chainRest at h
  split at h
  · next op rest hrest =>
    split_ifs at h with hop
    · obtain ⟨grammar, hfinishes, h⟩ := hnested.of_deeper h
      obtain ⟨right, hright, h⟩ := of_bind_eq_ok h
      have hends := hfinishes.chain _ _ right hright
      exact hfinishes.chainRest _ _ _ _ _ hends h
    · cases h
      refine hleft.chain_of_tighter fun op' more heq => ?_
      rw [hrest] at heq
      cases heq
      exact hop
  · next hnone =>
    cases h
    exact hleft.chain_of_tighter fun op more heq => absurd heq (hnone op more)

/-- A chain is read to its end. The induction is on the levels. -/
lemma chain_finishes (hnested : FinishBelow nested) (levels : List Level)
    {parsed : Parsed Expr tokens} (h : chain nested levels tokens = .ok parsed) :
    Stops (.chain levels) parsed.rest := by
  induction levels generalizing parsed with
  | nil =>
    have hunary := unary_finishes hnested h
    exact hunary.mono fun token => by cases token <;> simp [Category.CanGoOn]
  | cons level tighter ih =>
    obtain ⟨first, hfirst, h⟩ := of_bind_eq_ok h
    exact chainRest_finishes hnested (ih hfirst) h

/-- A conditional is read with its branches. -/
lemma conditional_finishes (hnested : FinishBelow nested) {parsed : Parsed Expr tokens}
    (h : conditional nested tokens = .ok parsed) : Stops .conditional parsed.rest := by
  obtain ⟨condition, hcondition, h⟩ := of_bind_eq_ok h
  split at h
  · next rest hrest =>
    obtain ⟨grammar, hfinishes, h⟩ := hnested.of_deeper h
    obtain ⟨whenTrue, -, h⟩ := of_bind_eq_ok h
    obtain ⟨separated, -, h⟩ := of_bind_eq_ok h
    obtain ⟨whenFalse, hwhenFalse, h⟩ := of_bind_eq_ok h
    cases h
    have hends := hfinishes.conditional _ whenFalse hwhenFalse
    exact hends
  · next hquestion =>
    cases h
    exact (chain_finishes hnested levels hcondition).conditional_of_chain
      fun more heq => hquestion more heq

/-- The rules of one level read to the end if those of the next deeper one do. -/
lemma build_finishes (hnested : FinishBelow nested) : (build nested).Finishes where
  conditional _ _ := conditional_finishes hnested
  chain levels _ _ := chain_finishes hnested levels
  chainRest _ _ _ _ _ := chainRest_finishes hnested
  unary _ _ := unary_finishes hnested
  suffixes _ _ _ h := suffixes_finishes hnested none h

/-- **The rules of every level read to the end.** -/
theorem grammar_finishes (limit : ℕ) : (grammar limit).Finishes := by
  induction limit with
  | zero => exact build_finishes fun grammar h => by cases h
  | succ below ih =>
    refine build_finishes fun deeper h => ?_
    cases h
    exact ih

/-! ## What a rule reads -/

/-- The next deeper rules of every level read to the end. -/
lemma finishBelow_nestedAt (limit : ℕ) : FinishBelow (nestedAt limit) := by
  intro grammar hgrammar
  cases limit with
  | zero => cases hgrammar
  | succ below =>
    cases hgrammar
    exact grammar_finishes below

/-- The next deeper rules of every level are sound. -/
lemma soundBelow_nestedAt (limit : ℕ) : SoundBelow limit (nestedAt limit) := by
  intro grammar hgrammar
  cases limit with
  | zero => cases hgrammar
  | succ below =>
    cases hgrammar
    exact ⟨below, rfl, grammar_sound below⟩

/-- The rule of a category stops where it cannot go on. -/
lemma stops_of_ruleOf {category : Category} {limit : ℕ} {parsed : Parsed Expr tokens}
    (h : ruleOf category limit tokens = .ok parsed) : Stops category parsed.rest := by
  have hnested := finishBelow_nestedAt limit
  cases category with
  | conditional => exact conditional_finishes hnested h
  | chain levels => exact chain_finishes hnested levels h
  | unary => exact unary_finishes hnested h
  | power => exact power_finishes hnested h
  | access => exact suffixed_finishes hnested h
  | primary => exact stops_primary _

/-- The rule of a category reads phrases of the category. -/
lemma isPhrase_of_ruleOf {category : Category} {limit : ℕ} {parsed : Parsed Expr tokens}
    (h : ruleOf category limit tokens = .ok parsed) : parsed.IsPhrase category limit := by
  have hnested := soundBelow_nestedAt limit
  cases category with
  | conditional => exact conditional_sound hnested h
  | chain levels => exact chain_sound hnested levels h
  | unary => exact unary_sound hnested h
  | power => exact power_sound hnested h
  | access => exact suffixed_sound hnested h
  | primary => exact primary_sound (expression_sound hnested) h

/-- **What a rule reads.** With some levels left, the rule of a category reads a tree exactly if
there is a phrase of the category at the head of the tokens that has this tree, needs no more than
these levels, and ends where no token goes on with it. -/
theorem ruleOf_eq_ok_iff {category : Category} (hproper : category.Proper) {limit : ℕ}
    {value : Expr} {rest : List Token} :
    (∃ shorter, ruleOf category limit tokens = .ok ⟨value, rest, shorter⟩) ↔
      ∃ phrase, Derives category phrase ∧ tokens = phrase.tokens ++ rest ∧
        phrase.value = value ∧ phrase.need ≤ limit ∧ Stops category rest := by
  constructor
  · rintro ⟨shorter, h⟩
    obtain ⟨phrase, hderives, htokens, hvalue, hneed⟩ := isPhrase_of_ruleOf h
    exact ⟨phrase, hderives, htokens.symm, hvalue, hneed, stops_of_ruleOf h⟩
  · rintro ⟨phrase, hderives, htokens, rfl, hneed, hstops⟩
    exact (reads_of_derives hderives hproper limit tokens rest htokens hstops).1 hneed

/-- **What a rule reads hangs on the tokens that it takes and the one behind them.** On all tokens
that begin with those that were read, and have the same token behind them or none if there was
none, the rule reads the same tree up to the same place, if the levels that are left suffice; else
it refuses it as nested too deeply. -/
theorem answers_of_ruleOf_eq_ok {category : Category} (hproper : category.Proper) {limit : ℕ}
    {parsed : Parsed Expr tokens} (h : ruleOf category limit tokens = .ok parsed) :
    ∃ front need, tokens = front ++ parsed.rest ∧ need ≤ limit ∧
      ∀ (limit' : ℕ) (rest' : List Token), rest'.head? = parsed.rest.head? →
        Answers (ruleOf category limit' (front ++ rest')) (need ≤ limit') parsed.value rest' := by
  obtain ⟨value, rest, shorter⟩ := parsed
  obtain ⟨phrase, hderives, htokens, rfl, hneed, hstops⟩ :=
    (ruleOf_eq_ok_iff hproper).mp ⟨shorter, h⟩
  refine ⟨phrase.tokens, phrase.need, htokens, hneed, fun limit' rest' hhead => ?_⟩
  exact reads_of_derives hderives hproper limit' _ rest' rfl (hstops.congr hhead)

end SheetFormula.Formula

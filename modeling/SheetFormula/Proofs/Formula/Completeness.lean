import SheetFormula.Proofs.Formula.Soundness

/-!
# What the grammar derives is read by the parser

A phrase that stands at the head of some tokens is read, if the token behind it could not go on
with the phrase, and if its need is at most the number of levels left; with fewer levels left the
reading fails because the nesting is too deep. So the need of a phrase is exact, and deep nesting
is the only reason why a derived phrase is not read.

## Main definitions

* `SheetFormula.Formula.Category.CanGoOn`, `Stops` — the tokens that would be read as more of a
  phrase, and the absence of them.
* `SheetFormula.Formula.Answers` — a result within the levels left, too deep nesting otherwise.
* `SheetFormula.Formula.Reads` — the rule of a category answers with a phrase.

## Main results

* `SheetFormula.Formula.reads_of_derives` — every derived phrase is read.
* `SheetFormula.Formula.parse_eq_ok_iff` — a tree is accepted if the grammar gives it, with a need
  below the nesting limit.
* `SheetFormula.Formula.parse_tooDeep_of_derives` — beyond the limit a formula is refused as nested
  too deeply.
* `SheetFormula.Formula.parse_exactly_grammar` — the parser accepts exactly its grammar, but for the
  limit, and the grammar gives one tree to the tokens of a formula.
-/

set_option relaxedAutoImplicit false
set_option autoImplicit false

namespace SheetFormula.Formula

/-! ## Beginnings -/

/-- The tokens that can begin a primary. -/
def Token.OpensPrimary : Token → Prop
  | .number _ | .text _ | .name _ | .openParen => True
  | _ => False

/-- The tokens that can begin a phrase of a category: those that can begin a primary, and above
the powers also an operator. -/
def Category.Begins : Category → Token → Prop
  | .power, token | .access, token | .primary, token => token.OpensPrimary
  | _, token => token.OpensPrimary ∨ ∃ op, token = .operator op

/-- Every phrase begins with a token that can begin one of its category. -/
lemma Derives.exists_cons {category : Category} {phrase : Phrase} (h : Derives category phrase) :
    ∃ token rest, phrase.tokens = token :: rest ∧ category.Begins token := by
  induction h with
  | plain _ ih | operand _ ih => exact ih
  | unsigned _ ih =>
    obtain ⟨token, rest, htokens, hbegins⟩ := ih
    exact ⟨token, rest, htokens, .inl hbegins⟩
  | unraised _ ih => exact ih
  | choice _ _ _ ih =>
    obtain ⟨token, rest, htokens, hbegins⟩ := ih
    exact ⟨token, _, by rw [htokens]; rfl, hbegins⟩
  | chain _ _ _ ih | raised _ _ ih | suffixed _ _ _ ih =>
    obtain ⟨token, rest, htokens, hbegins⟩ := ih
    exact ⟨token, _, by rw [htokens]; rfl, hbegins⟩
  | signed _ _ => exact ⟨_, _, rfl, .inr ⟨_, rfl⟩⟩
  | _ => exact ⟨_, _, rfl, trivial⟩

/-! ## Ends -/

/-- The tokens that would be read as more of a phrase of a category. -/
def Category.CanGoOn (category : Category) : Token → Prop
  | .openParen | .openBracket | .dot => category ≠ .primary
  | .operator op =>
    match category with
    | .power | .unary => op = .power
    | .chain levels => op = .power ∨ op ∈ levels.flatten
    | .conditional => op = .power ∨ op ∈ formulaLevels.flatten
    | _ => False
  | .question => category = .conditional
  | _ => False

attribute [local simp] Category.CanGoOn

/-- The first of some tokens, if there is one, does not go on with a phrase of a category. -/
def Stops (category : Category) (rest : List Token) : Prop :=
  ∀ token ∈ rest.head?, ¬ category.CanGoOn token

/-- The end of the tokens stops every phrase. -/
lemma stops_nil (category : Category) : Stops category [] := by
  simp [Stops]

/-- Whether a token stops a phrase hangs on that token only. -/
lemma stops_cons {category : Category} {token : Token} {rest : List Token} :
    Stops category (token :: rest) ↔ ¬ category.CanGoOn token := by
  simp [Stops]

/-- The tokens that only ever stand behind a phrase. -/
def Token.Closes : Token → Prop
  | .closeParen | .closeBracket | .comma | .colon => True
  | _ => False

/-- A token that stands behind phrases stops them all. -/
lemma stops_closer {category : Category} (token : Token) (h : token.Closes) (rest : List Token) :
    Stops category (token :: rest) := by
  rw [stops_cons]
  cases token <;> simp_all [Token.Closes]

/-- What would go on with a part of a phrase would go on with the phrase. -/
lemma Stops.mono {category part : Category} {rest : List Token}
    (hpart : ∀ token, part.CanGoOn token → category.CanGoOn token) (h : Stops category rest) :
    Stops part rest :=
  fun token htoken hgoes => h token htoken (hpart token hgoes)

/-- A conditional ends where its last chain does. -/
lemma Stops.chain_of_conditional {rest : List Token} (h : Stops .conditional rest) :
    Stops (.chain formulaLevels) rest :=
  h.mono fun token => by cases token <;> simp

/-- A chain ends where its last operand does. -/
lemma Stops.tighter {level : Level} {tighter : List Level} {rest : List Token}
    (h : Stops (.chain (level :: tighter)) rest) : Stops (.chain tighter) rest :=
  h.mono fun token => by
    cases token with
    | operator op => simp only [Category.CanGoOn, List.flatten_cons, List.mem_append]; tauto
    | _ => simp

/-- A chain of no level ends where its unary does. -/
lemma Stops.unary_of_chain {rest : List Token} (h : Stops (.chain []) rest) :
    Stops .unary rest :=
  h.mono fun token => by cases token <;> simp

/-- A unary ends where its power does. -/
lemma Stops.power_of_unary {rest : List Token} (h : Stops .unary rest) : Stops .power rest :=
  h.mono fun token => by cases token <;> simp

/-- A power ends where its exponent does. -/
lemma Stops.unary_of_power {rest : List Token} (h : Stops .power rest) : Stops .unary rest :=
  h.mono fun token => by cases token <;> simp

/-- A power without exponent ends where its base does. -/
lemma Stops.access_of_power {rest : List Token} (h : Stops .power rest) : Stops .access rest :=
  h.mono fun token => by cases token <;> simp

/-- Nothing goes on with a primary. -/
lemma stops_primary (rest : List Token) : Stops .primary rest := by
  intro token _
  cases token <;> simp

/-- The operators of some levels are all different, and none of them is the power sign. -/
def Category.Proper : Category → Prop
  | .chain levels => (Operator.power :: levels.flatten).Nodup
  | _ => True

/-- An operator of a level ends an operand of the next tighter level. -/
lemma stops_operator {level : Level} {tighter : List Level} {op : Operator} {rest : List Token}
    (hproper : (Category.chain (level :: tighter)).Proper) (hop : op ∈ level) :
    Stops (.chain tighter) (.operator op :: rest) := by
  rw [stops_cons]
  simp only [Category.Proper, List.flatten_cons, List.nodup_cons, List.mem_append,
    List.nodup_append] at hproper
  rintro (rfl | hmem)
  · exact hproper.1 (.inl hop)
  · exact hproper.2.2.2 op hop op hmem rfl

/-! ## Answers -/

/-- The rules that are one level deeper, if one of some levels is left. -/
def nestedAt : ℕ → Option Grammar
  | 0 => none
  | below + 1 => some (grammar below)

/-- The rules with some levels left are made from those of the next deeper level. -/
lemma grammar_eq (limit : ℕ) : grammar limit = build (nestedAt limit) := by
  cases limit <;> rfl

variable {α β : Type} {tokens inner : List Token}

/-- A result is a value and the tokens after it, if a condition on the levels left is kept, and too
deep nesting otherwise. -/
def Answers (result : Except Stop (Parsed α tokens)) (within : Prop) (value : α)
    (rest : List Token) : Prop :=
  (within → ∃ shorter, result = .ok ⟨value, rest, shorter⟩) ∧
    (¬ within → ∃ left, result = .error ⟨.tooDeep, left⟩)

/-- The condition of an answer may be replaced by an equivalent one. -/
lemma Answers.congr {result : Except Stop (Parsed α tokens)} {within within' : Prop} {value : α}
    {rest : List Token} (h : Answers result within value rest) (hiff : within' ↔ within) :
    Answers result within' value rest :=
  ⟨fun hwithin => h.1 (hiff.mp hwithin), fun hdeep => h.2 fun hwithin => hdeep (hiff.mpr hwithin)⟩

/-- A value that is there is an answer on every condition that holds. -/
lemma answers_ok {value : α} {rest : List Token} {shorter : rest.length < tokens.length}
    {within : Prop} (h : within) :
    Answers (.ok ⟨value, rest, shorter⟩ : Except Stop (Parsed α tokens)) within value rest :=
  ⟨fun _ => ⟨shorter, rfl⟩, fun hnot => absurd h hnot⟩

/-- Steps that follow each other answer on the conditions of both. -/
lemma Answers.bind {first : Except Stop (Parsed β inner)}
    {next : Parsed β inner → Except Stop (Parsed α tokens)} {within within' : Prop} {part : β}
    {value : α} {behind rest : List Token} (hfirst : Answers first within part behind)
    (hnext : ∀ shorter, Answers (next ⟨part, behind, shorter⟩) within' value rest) :
    Answers (first >>= next) (within ∧ within') value rest := by
  by_cases hwithin : within
  · obtain ⟨shorter, rfl⟩ := hfirst.1 hwithin
    exact (hnext shorter).congr (and_iff_right hwithin)
  · obtain ⟨left, rfl⟩ := hfirst.2 hwithin
    exact ⟨fun h => absurd h.1 hwithin, fun _ => ⟨left, rfl⟩⟩

/-- A step into the next deeper level takes one level. -/
lemma answers_deeper {limit left need : ℕ} {go : Grammar → Except Stop (Parsed α tokens)}
    {value : α} {rest : List Token}
    (h : ∀ below, Answers (go (build (nestedAt below))) (need ≤ below) value rest) :
    Answers (deeper (nestedAt limit) left go) (need + 1 ≤ limit) value rest := by
  cases limit with
  | zero => exact ⟨fun h => by omega, fun _ => ⟨left, rfl⟩⟩
  | succ below =>
    have hgo := h below
    rw [← grammar_eq] at hgo
    exact hgo.congr Nat.succ_le_succ_iff

/-- A step that always succeeds answers on no further condition. -/
lemma Answers.bind_ok {first : Except Stop (Parsed β inner)}
    {next : Parsed β inner → Except Stop (Parsed α tokens)} {within : Prop} {part : β}
    {value : α} {behind rest : List Token} (hfirst : Answers first within part behind)
    (hnext : ∀ shorter, ∃ shorter', next ⟨part, behind, shorter⟩ = .ok ⟨value, rest, shorter'⟩) :
    Answers (first >>= next) within value rest := by
  refine (hfirst.bind fun shorter => ?_).congr (and_iff_left trivial).symm
  obtain ⟨shorter', hok⟩ := hnext shorter
  rw [hok]
  exact answers_ok trivial

/-- The rule of the parser for a category. -/
def ruleOf (category : Category) (limit : ℕ) : Rule Expr :=
  match category with
  | .conditional => conditional (nestedAt limit)
  | .chain levels => chain (nestedAt limit) levels
  | .unary => unary (nestedAt limit)
  | .power => power (nestedAt limit)
  | .access => suffixed (nestedAt limit)
  | .primary => primary (expression (nestedAt limit))

/-- The rule of a category answers with a phrase at the head of all tokens in which the phrase
stops. -/
def Reads (category : Category) (phrase : Phrase) : Prop :=
  ∀ (limit : ℕ) (tokens rest : List Token), tokens = phrase.tokens ++ rest → Stops category rest →
    Answers (ruleOf category limit tokens) (phrase.need ≤ limit) phrase.value rest

/-! ## Primaries and suffixes -/

/-- An expression in parentheses, in brackets or between commas is read one level deeper. -/
lemma Reads.inside {phrase : Phrase} (h : Reads .conditional phrase) (limit : ℕ)
    {rest : List Token} (htokens : tokens = phrase.tokens ++ rest)
    (hstops : Stops .conditional rest) :
    Answers (expression (nestedAt limit) tokens) (phrase.need + 1 ≤ limit) phrase.value rest :=
  answers_deeper fun below => h below tokens rest htokens hstops

/-- An expression in parentheses is read. -/
lemma Reads.group {phrase : Phrase} (h : Reads .conditional phrase) :
    Reads .primary
      { tokens := .openParen :: phrase.tokens ++ [.closeParen]
        value := phrase.value
        need := phrase.need + 1 } := by
  rintro limit tokens rest rfl -
  have hinside := h.inside limit (List.append_assoc phrase.tokens [.closeParen] rest)
    (stops_closer .closeParen trivial rest)
  exact hinside.bind_ok fun shorter => ⟨_, rfl⟩

/-- Expressions between commas are read, up to the closing parenthesis. -/
lemma answers_commaSeparated (limit : ℕ) {rest : List Token} :
    ∀ {first : Phrase} {arguments : List Phrase} {tokens : List Token},
      (∀ argument ∈ first :: arguments, Reads .conditional argument) →
      tokens = argumentTokens (first :: arguments) ++ .closeParen :: rest →
      Answers (commaSeparated (expression (nestedAt limit)) tokens)
        (needOfAll (first :: arguments) ≤ limit)
        ((first :: arguments).map Phrase.value) (.closeParen :: rest) := by
  intro first arguments
  induction arguments generalizing first with
  | nil =>
    intro tokens hreads htokens
    rw [argumentTokens_singleton] at htokens
    rw [commaSeparated]
    have hfirst := (hreads first (by simp)).inside limit htokens
      (stops_closer .closeParen trivial rest)
    refine (hfirst.bind_ok ?next).congr ?iff
    case next => exact fun _ => ⟨_, rfl⟩
    case iff => simp
  | cons second more ih =>
    intro tokens hreads htokens
    rw [commaSeparated]
    have hfirst := (hreads first (by simp)).inside limit (by simpa using htokens)
      (stops_closer .comma trivial (argumentTokens (second :: more) ++ .closeParen :: rest))
    have hmore := ih (fun argument hargument => hreads argument (List.mem_cons_of_mem _ hargument))
      rfl
    refine (hfirst.bind fun shorter => ?_).congr Nat.max_le
    exact hmore.bind_ok fun _ => ⟨_, rfl⟩

/-- Arguments begin with their first expression. -/
lemma exists_argumentTokens_eq (first : Phrase) (others : List Phrase) :
    ∃ more, argumentTokens (first :: others) = first.tokens ++ more := by
  cases others with
  | nil => exact ⟨[], by simp⟩
  | cons second more => exact ⟨_, argumentTokens_cons_cons first second more⟩

/-- The arguments of a call are read, with the closing parenthesis. -/
lemma answers_arguments {limit : ℕ} {list : List Phrase} {rest : List Token}
    (hderives : ∀ argument ∈ list, Derives .conditional argument)
    (hreads : ∀ argument ∈ list, Reads .conditional argument)
    (htokens : tokens = argumentTokens list ++ .closeParen :: rest) :
    Answers (arguments (expression (nestedAt limit)) tokens) (needOfAll list ≤ limit)
      (list.map Phrase.value) rest := by
  cases list with
  | nil =>
    subst htokens
    exact answers_ok (Nat.zero_le _)
  | cons first others =>
    have hlist := answers_commaSeparated limit hreads htokens
    -- no expression begins with the parenthesis that would end an empty list
    obtain ⟨token, behind, hfirst, hbegins⟩ := (hderives first (by simp)).exists_cons
    obtain ⟨more, hmore⟩ := exists_argumentTokens_eq first others
    rw [hmore, hfirst] at htokens
    subst htokens
    cases token with
    | closeParen => simp [Category.Begins, Token.OpensPrimary] at hbegins
    | _ => exact hlist.bind_ok fun _ => ⟨_, rfl⟩

/-- An expression that nothing goes on with has no suffix. -/
lemma answers_suffixes_nil {limit : ℕ} (callee : Option String) {object : Parsed Expr tokens}
    {rest : List Token} (hrest : object.rest = rest) (hstops : Stops .access rest) :
    Answers (suffixes (nestedAt limit) callee object) True object.value rest := by
  obtain ⟨value, rest, shorter⟩ := object
  subst hrest
  cases rest with
  | nil => exact answers_ok trivial
  | cons token more =>
    rw [stops_cons] at hstops
    cases token with
    | openParen | openBracket | dot => simp at hstops
    | _ => exact answers_ok trivial

/-- The name of a property is read. -/
lemma property_of_names {token : Token} {name : String} (h : NamesProperty token name)
    (rest : List Token) : property (token :: rest) = .ok ⟨name, rest, Nat.lt_succ_self _⟩ := by
  cases h <;> rfl

/-- Suffixes behind an expression are read, one level deeper each. The induction is on the
suffixes. -/
lemma answers_suffixes {suffixes : List Suffix}
    (hkeys : ∀ key, Suffix.key key ∈ suffixes → Reads .conditional key)
    (hnames : ∀ token name, Suffix.property token name ∈ suffixes → NamesProperty token name)
    {rest : List Token} (hstops : Stops .access rest) :
    ∀ {limit : ℕ} {tokens : List Token} {object : Parsed Expr tokens},
      object.rest = suffixes.flatMap Suffix.tokens ++ rest →
      Answers (Formula.suffixes (nestedAt limit) none object)
        (needInTurn (suffixes.map Suffix.need) ≤ limit)
        (suffixes.foldl Suffix.attach object.value) rest := by
  induction suffixes with
  | nil =>
    intro limit tokens object hrest
    exact (answers_suffixes_nil none hrest hstops).congr (by simp)
  | cons suffix more ih =>
    intro limit tokens object hrest
    obtain ⟨value, behind, shorter⟩ := object
    have hmore := @ih (fun key hkey => hkeys key (List.mem_cons_of_mem _ hkey))
      (fun token name hname => hnames token name (List.mem_cons_of_mem _ hname))
    cases suffix with
    | key inside =>
      obtain rfl : behind = .openBracket :: (inside.tokens ++
          (.closeBracket :: (more.flatMap Suffix.tokens ++ rest))) := by
        simpa [Suffix.tokens] using hrest
      refine answers_deeper fun below => ?_
      have hinside := (hkeys inside (by simp)).inside below rfl
        (stops_closer .closeBracket trivial (more.flatMap Suffix.tokens ++ rest))
      exact (hinside.bind fun _ => hmore rfl).congr Nat.max_le
    | property token name =>
      obtain rfl : behind = .dot :: token :: (more.flatMap Suffix.tokens ++ rest) := by
        simpa [Suffix.tokens] using hrest
      refine answers_deeper fun below => ?_
      rw [property_of_names (hnames token name (by simp))]
      exact (hmore rfl).congr (by simp [Suffix.need])

/-- What follows a primary or a call stops it: a suffix begins with a bracket or a point. -/
lemma ne_openParen_of_suffixes {suffixes : List Suffix} {rest : List Token}
    (hstops : Stops .access rest) :
    ∀ more, suffixes.flatMap Suffix.tokens ++ rest ≠ .openParen :: more := by
  rintro more heq
  cases suffixes with
  | nil =>
    rw [List.flatMap_nil, List.nil_append] at heq
    rw [heq, stops_cons] at hstops
    simp at hstops
  | cons suffix others =>
    cases suffix <;> simp [Suffix.tokens] at heq

/-- A primary with suffixes is read. -/
lemma Reads.suffixed {head : Phrase} {suffixes : List Suffix} (hhead : Reads .primary head)
    (hkeys : ∀ key, Suffix.key key ∈ suffixes → Reads .conditional key)
    (hnames : ∀ token name, Suffix.property token name ∈ suffixes → NamesProperty token name) :
    Reads .access
      { tokens := head.tokens ++ suffixes.flatMap Suffix.tokens
        value := suffixes.foldl Suffix.attach head.value
        need := max head.need (needInTurn (suffixes.map Suffix.need)) } := by
  intro limit tokens rest htokens hstops
  have hfirst := hhead limit tokens (suffixes.flatMap Suffix.tokens ++ rest)
    (htokens.trans (List.append_assoc _ _ _)) (stops_primary _)
  refine (hfirst.bind fun shorter => ?_).congr Nat.max_le
  rw [suffixes_eq_none _ (ne_openParen_of_suffixes hstops)]
  exact answers_suffixes hkeys hnames hstops rfl

/-- The parser knows the constants. -/
lemma constant?_of_mem {name : String} {value : Expr} (h : (name, value) ∈ constants) :
    constant? name = some value := by
  simp only [constants, List.mem_cons, Prod.mk.injEq, List.not_mem_nil, or_false] at h
  rcases h with ⟨rfl, rfl⟩ | ⟨rfl, rfl⟩ | ⟨rfl, rfl⟩ | ⟨rfl, rfl⟩ | ⟨rfl, rfl⟩ | ⟨rfl, rfl⟩ <;>
    simp [constant?]

/-- The parser takes the free names for no constant. -/
lemma constant?_of_isFreeName {name : String} (h : IsFreeName name) : constant? name = none := by
  cases hconstant : constant? name with
  | none => rfl
  | some value => exact absurd (constant?_eq_some hconstant) (h value)

/-- A call with suffixes is read. -/
lemma Reads.called {name : String} {arguments : List Phrase} {suffixes : List Suffix}
    (hname : IsFreeName name) (hderives : ∀ argument ∈ arguments, Derives .conditional argument)
    (harguments : ∀ argument ∈ arguments, Reads .conditional argument)
    (hkeys : ∀ key, Suffix.key key ∈ suffixes → Reads .conditional key)
    (hnames : ∀ token name, Suffix.property token name ∈ suffixes → NamesProperty token name) :
    Reads .access
      { tokens := .name name :: .openParen :: argumentTokens arguments ++
          .closeParen :: suffixes.flatMap Suffix.tokens
        value := suffixes.foldl Suffix.attach (.call name (arguments.map Phrase.value))
        need := needInTurn (needOfAll arguments :: suffixes.map Suffix.need) } := by
  intro limit tokens rest htokens hstops
  obtain rfl : tokens = .name name :: .openParen :: (argumentTokens arguments ++
      .closeParen :: (suffixes.flatMap Suffix.tokens ++ rest)) := by
    simpa using htokens
  have hcallee : ∀ more, callee? (.name name :: more) = some name := fun more => by
    simp [callee?, constant?_of_isFreeName hname]
  simp only [ruleOf, Formula.suffixed, hcallee]
  refine answers_deeper fun below => ?_
  refine ((answers_arguments hderives harguments rfl).bind fun _ => ?_).congr Nat.max_le
  exact answers_suffixes hkeys hnames hstops rfl

/-! ## Operators and branches -/

/-- A suffixed primary without exponent is read as a power. -/
lemma Reads.unraised {phrase : Phrase} (h : Reads .access phrase) : Reads .power phrase := by
  intro limit tokens rest htokens hstops
  refine (h limit tokens rest htokens hstops.access_of_power).bind_ok fun shorter => ?_
  cases rest with
  | nil => exact ⟨_, rfl⟩
  | cons token more =>
    rw [stops_cons] at hstops
    cases token with
    | operator op =>
      cases op with
      | power => simp at hstops
      | _ => exact ⟨_, rfl⟩
    | _ => exact ⟨_, rfl⟩

/-- A suffixed primary with an exponent is read as a power. -/
lemma Reads.raised {base exponent : Phrase} (hbase : Reads .access base)
    (hexponent : Reads .unary exponent) :
    Reads .power
      { tokens := base.tokens ++ .operator .power :: exponent.tokens
        value := .binary .power base.value exponent.value
        need := max base.need (exponent.need + 1) } := by
  intro limit tokens rest htokens hstops
  have hfirst := hbase limit tokens (.operator .power :: (exponent.tokens ++ rest))
    (by simpa using htokens) (stops_cons.mpr (by simp))
  refine (hfirst.bind fun shorter => ?_).congr Nat.max_le
  refine answers_deeper fun below => ?_
  exact (hexponent below _ rest rfl hstops.unary_of_power).bind_ok fun _ => ⟨_, rfl⟩

/-- A power is read as a unary. -/
lemma Reads.unsigned {phrase : Phrase} (hderives : Derives .power phrase)
    (h : Reads .power phrase) : Reads .unary phrase := by
  intro limit tokens rest htokens hstops
  have hpower := h limit tokens rest htokens hstops.power_of_unary
  -- a power does not begin with an operator, so the sign is not taken for one
  obtain ⟨token, behind, hbegin, hbegins⟩ := hderives.exists_cons
  rw [hbegin, List.cons_append] at htokens
  subst htokens
  cases token with
  | operator op => exact absurd hbegins (by simp [Category.Begins, Token.OpensPrimary])
  | _ => exact hpower

/-- A unary with an operator before it is read. -/
lemma Reads.signed {op : Operator} {operand : Phrase} (hop : op ∈ [Operator.minus, .plus, .not])
    (h : Reads .unary operand) :
    Reads .unary
      { tokens := .operator op :: operand.tokens
        value := .unary op operand.value
        need := operand.need + 1 } := by
  rintro limit tokens rest rfl hstops
  have hmem : op ∈ unaryOperators := hop
  simp only [ruleOf, List.cons_append, unary, hmem, ↓reduceIte]
  refine answers_deeper fun below => ?_
  exact (h below _ rest rfl hstops).bind_ok fun _ => ⟨_, rfl⟩

/-- The links of a chain are read, one level deeper each. The induction is on the links. -/
lemma answers_chainRest {level : Level} {tighter : List Level}
    (hproper : (Category.chain (level :: tighter)).Proper) {links : List Link}
    (hlevel : ∀ link ∈ links, link.op ∈ level)
    (hlinks : ∀ link ∈ links, Reads (.chain tighter) link.operand)
    {rest : List Token} (hstops : Stops (.chain (level :: tighter)) rest) :
    ∀ {limit : ℕ} {tokens : List Token} {left : Parsed Expr tokens},
      left.rest = links.flatMap Link.tokens ++ rest →
      Answers (chainRest (nestedAt limit) level tighter left)
        (needInTurn (links.map fun link => link.operand.need) ≤ limit)
        (links.foldl Link.attach left.value) rest := by
  induction links with
  | nil =>
    intro limit tokens left hrest
    obtain ⟨value, behind, shorter⟩ := left
    obtain rfl : behind = rest := by simpa using hrest
    cases behind with
    | nil => exact answers_ok (Nat.zero_le _)
    | cons token more =>
      rw [stops_cons] at hstops
      cases token with
      | operator op =>
        have hop : op ∉ level := fun hmem => hstops (.inr (by simp [hmem]))
        simp only [chainRest, hop, ↓reduceIte]
        exact answers_ok (Nat.zero_le _)
      | _ => exact answers_ok (Nat.zero_le _)
  | cons link more ih =>
    intro limit tokens left hrest
    obtain ⟨value, behind, shorter⟩ := left
    obtain rfl : behind = .operator link.op ::
        (link.operand.tokens ++ (more.flatMap Link.tokens ++ rest)) := by
      simpa [Link.tokens] using hrest
    have hop : link.op ∈ level := hlevel link (by simp)
    have hmore := @ih (fun link' h => hlevel link' (List.mem_cons_of_mem _ h))
      (fun link' h => hlinks link' (List.mem_cons_of_mem _ h))
    -- the operand ends at the operator of the next link, or where the chain does
    have hend : Stops (.chain tighter) (more.flatMap Link.tokens ++ rest) := by
      cases more with
      | nil => exact hstops.tighter
      | cons next others => exact stops_operator hproper (hlevel next (by simp))
    simp only [chainRest, hop, ↓reduceIte]
    refine answers_deeper fun below => ?_
    refine ((hlinks link (by simp) below _ _ rfl hend).bind fun _ => ?_).congr Nat.max_le
    exact hmore rfl

/-- A unary is read as a chain of no level. -/
lemma Reads.operand {phrase : Phrase} (h : Reads .unary phrase) : Reads (.chain []) phrase :=
  fun limit tokens rest htokens hstops => h limit tokens rest htokens hstops.unary_of_chain

/-- An operand with links is read as a chain. -/
lemma Reads.chain {level : Level} {tighter : List Level} {first : Phrase} {links : List Link}
    (hproper : (Category.chain (level :: tighter)).Proper) (hfirst : Reads (.chain tighter) first)
    (hlevel : ∀ link ∈ links, link.op ∈ level)
    (hlinks : ∀ link ∈ links, Reads (.chain tighter) link.operand) :
    Reads (.chain (level :: tighter))
      { tokens := first.tokens ++ links.flatMap Link.tokens
        value := links.foldl Link.attach first.value
        need := max first.need (needInTurn (links.map fun link => link.operand.need)) } := by
  intro limit tokens rest htokens hstops
  have hend : Stops (.chain tighter) (links.flatMap Link.tokens ++ rest) := by
    cases links with
    | nil => exact hstops.tighter
    | cons next others => exact stops_operator hproper (hlevel next (by simp))
  have hhead := hfirst limit tokens (links.flatMap Link.tokens ++ rest)
    (htokens.trans (List.append_assoc _ _ _)) hend
  refine (hhead.bind fun _ => ?_).congr Nat.max_le
  exact answers_chainRest hproper hlevel hlinks hstops rfl

/-- A chain is read as a conditional. -/
lemma Reads.plain {condition : Phrase} (h : Reads (.chain formulaLevels) condition) :
    Reads .conditional condition := by
  intro limit tokens rest htokens hstops
  refine (h limit tokens rest htokens hstops.chain_of_conditional).bind_ok fun shorter => ?_
  cases rest with
  | nil => exact ⟨_, rfl⟩
  | cons token more =>
    rw [stops_cons] at hstops
    cases token with
    | question => simp at hstops
    | _ => exact ⟨_, rfl⟩

/-- A chain with two branches is read as a conditional. -/
lemma Reads.choice {condition whenTrue whenFalse : Phrase}
    (hcondition : Reads (.chain formulaLevels) condition)
    (hwhenTrue : Reads .conditional whenTrue) (hwhenFalse : Reads .conditional whenFalse) :
    Reads .conditional
      { tokens := condition.tokens ++ .question :: whenTrue.tokens ++ .colon :: whenFalse.tokens
        value := .choice condition.value whenTrue.value whenFalse.value
        need := max condition.need (max whenTrue.need whenFalse.need + 1) } := by
  intro limit tokens rest htokens hstops
  have hfirst := hcondition limit tokens
    (.question :: (whenTrue.tokens ++ .colon :: (whenFalse.tokens ++ rest)))
    (by simpa using htokens) (stops_cons.mpr (by simp))
  refine (hfirst.bind fun shorter => ?_).congr Nat.max_le
  refine answers_deeper fun below => ?_
  have hsecond := hwhenTrue below _ (.colon :: (whenFalse.tokens ++ rest)) rfl
    (stops_closer .colon trivial _)
  refine (hsecond.bind fun _ => ?_).congr Nat.max_le
  exact (hwhenFalse below _ rest rfl hstops).bind_ok fun _ => ⟨_, rfl⟩

/-! ## The grammar -/

/-- No two levels of formulas share an operator, and the power sign is in none. -/
lemma proper_formulaLevels : (Category.chain formulaLevels).Proper := by
  unfold Category.Proper
  decide

/-- The levels of an operand are as different as those of its chain. -/
lemma Category.Proper.tighter {level : Level} {tighter : List Level}
    (h : (Category.chain (level :: tighter)).Proper) : (Category.chain tighter).Proper := by
  simp only [Category.Proper, List.flatten_cons, List.nodup_cons, List.mem_append,
    List.nodup_append] at h ⊢
  exact ⟨fun hmem => h.1 (.inr hmem), h.2.2.1⟩

/-- **Every derived phrase is read.**

**Proof sketch.** Induction on the derivation, one lemma for each rule of the grammar. In the rules
for chains the operators of the levels have to be told apart, which is kept for the tighter levels
and holds of those of formulas. -/
theorem reads_of_derives {category : Category} {phrase : Phrase} (h : Derives category phrase) :
    category.Proper → Reads category phrase := by
  induction h with
  | plain _ ih => exact fun _ => (ih proper_formulaLevels).plain
  | choice _ _ _ ihcondition ihwhenTrue ihwhenFalse =>
    exact fun _ => (ihcondition proper_formulaLevels).choice (ihwhenTrue trivial)
      (ihwhenFalse trivial)
  | operand _ ih => exact fun _ => (ih trivial).operand
  | chain _ hlevel _ ihfirst ihlinks =>
    exact fun hproper => Reads.chain hproper (ihfirst hproper.tighter) hlevel
      fun link hlink => ihlinks link hlink hproper.tighter
  | signed hop _ ih => exact fun _ => (ih trivial).signed hop
  | unsigned hphrase ih => exact fun _ => (ih trivial).unsigned hphrase
  | unraised _ ih => exact fun _ => (ih trivial).unraised
  | raised _ _ ihbase ihexponent => exact fun _ => (ihbase trivial).raised (ihexponent trivial)
  | suffixed _ _ hnames ihhead ihkeys =>
    exact fun _ => (ihhead trivial).suffixed (fun key hkey => ihkeys key hkey trivial) hnames
  | called hname harguments _ hnames iharguments ihkeys =>
    exact fun _ => Reads.called hname harguments
      (fun argument hargument => iharguments argument hargument trivial)
      (fun key hkey => ihkeys key hkey trivial) hnames
  | number value | text value =>
    rintro - limit tokens rest rfl -
    exact answers_ok (Nat.zero_le _)
  | @constant name value hconstant =>
    rintro - limit tokens rest rfl -
    have hvalue : ofName name = value := by simp [ofName, constant?_of_mem hconstant]
    rw [← hvalue]
    exact answers_ok (Nat.zero_le _)
  | @reference name hname =>
    rintro - limit tokens rest rfl -
    have hvalue : ofName name = .reference name := by
      simp [ofName, constant?_of_isFreeName hname]
    rw [← hvalue]
    exact answers_ok (Nat.zero_le _)
  | group _ ih => exact fun _ => (ih trivial).group

/-- A formula is read as a whole if its need lies below the nesting limit. -/
lemma answers_formula {expr : Expr} {need : ℕ} (h : Derives .conditional ⟨tokens, expr, need⟩) :
    Answers ((grammar maxDepth).expression tokens) (need + 1 ≤ maxDepth) expr [] := by
  rw [grammar_eq]
  exact (reads_of_derives h trivial).inside maxDepth (by simp) (stops_nil _)

/-- The tree of a formula with a need below the nesting limit is accepted. -/
theorem parse_of_derives {expr : Expr} {need : ℕ} (hneed : need < maxDepth)
    (h : Derives .conditional ⟨tokens, expr, need⟩) : parse tokens = .ok expr := by
  obtain ⟨shorter, hread⟩ := (answers_formula h).1 hneed
  obtain ⟨token, rest, rfl, -⟩ := h.exists_cons
  simp [parse, parseAll, hread, Except.mapError, bind, Except.bind, pure, Except.pure]

/-- **A tree is accepted exactly if the grammar gives it to the tokens, with a need below the
nesting limit.** -/
theorem parse_eq_ok_iff {expr : Expr} :
    parse tokens = .ok expr ↔
      ∃ need, need < maxDepth ∧ Derives .conditional ⟨tokens, expr, need⟩ :=
  ⟨derives_of_parse, fun ⟨_, hneed, h⟩ => parse_of_derives hneed h⟩

/-- A formula with a greater need is refused, as nested too deeply. -/
theorem parse_tooDeep_of_derives {expr : Expr} {need : ℕ} (hneed : maxDepth ≤ need)
    (h : Derives .conditional ⟨tokens, expr, need⟩) :
    ∃ position, parse tokens = .error ⟨.tooDeep, position⟩ := by
  obtain ⟨left, hread⟩ := (answers_formula h).2 (by omega)
  obtain ⟨token, rest, rfl, -⟩ := h.exists_cons
  simp [parse, parseAll, hread, Except.mapError, bind, Except.bind]

/-! ## The grammar is unambiguous -/

/-- Conditionals with the same tokens have the same tree: where the levels that both of them need
are left, the parser reads both. -/
lemma Derives.value_unique {expr expr' : Expr} {need need' : ℕ}
    (h : Derives .conditional ⟨tokens, expr, need⟩)
    (h' : Derives .conditional ⟨tokens, expr', need'⟩) : expr = expr' := by
  have htokens : tokens = tokens ++ [] := (List.append_nil tokens).symm
  obtain ⟨_, hread⟩ := (reads_of_derives h trivial (max need need') tokens [] htokens
    (stops_nil _)).1 (Nat.le_max_left need need')
  obtain ⟨_, hread'⟩ := (reads_of_derives h' trivial (max need need') tokens [] htokens
    (stops_nil _)).1 (Nat.le_max_right need need')
  rw [hread] at hread'
  cases hread'
  rfl

/-- **The parser accepts exactly its grammar, and builds the tree that the grammar gives.** What it
accepts is derived; what is derived is accepted, or refused as nested too deeply; and derived
formulas have tokens, and one tree each. -/
theorem parse_exactly_grammar (tokens : List Token) (expr : Expr) :
    (parse tokens = .ok expr → DerivesFormula tokens expr) ∧
    (DerivesFormula tokens expr →
      (parse tokens = .ok expr ∨ ∃ failure, parse tokens = .error failure ∧
        failure.fault.message = "Expression nested too deeply") ∧
      tokens ≠ [] ∧ ∀ other, DerivesFormula tokens other → other = expr) := by
  constructor
  · intro hparse
    obtain ⟨need, -, hderives⟩ := derives_of_parse hparse
    exact ⟨need, hderives⟩
  · rintro ⟨need, hderives⟩
    refine ⟨?_, ?_, ?_⟩
    · rcases Nat.lt_or_ge need maxDepth with hneed | hneed
      · exact .inl (parse_of_derives hneed hderives)
      · obtain ⟨position, hparse⟩ := parse_tooDeep_of_derives hneed hderives
        exact .inr ⟨_, hparse, rfl⟩
    · obtain ⟨token, rest, htokens, -⟩ := hderives.exists_cons
      simp only at htokens
      rw [htokens]
      exact List.cons_ne_nil token rest
    · rintro other ⟨need', hother⟩
      exact hother.value_unique hderives

end SheetFormula.Formula

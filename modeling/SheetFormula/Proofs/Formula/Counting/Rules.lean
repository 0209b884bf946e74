import SheetFormula.Proofs.Formula.Counting.Basic
import SheetFormula.Proofs.Formula.Endings
import Mathlib.Data.Nat.Notation
import Mathlib.Tactic.Common

/-!
# The counting parser follows the rules

Each routine of the counting parser does what the rule of its name does with the levels that are
left at its depth: it returns the same tree in front of the same tokens, or stops with the same
fault at the same place. In particular it always ends, is back at the depth at which it was entered
when it returns, and never counts below zero.

The rules hand the levels left from one to the next, where the routines share one count. The two
meet in `follows_descend`: going down is a step to the rules of the next deeper level, and
`follows_ascend` comes back. A loop gives back all of its levels at its end, so it is compared with
its rule together with this end, from any turn on.

## Main definitions

* `SheetFormula.Formula.Counting.Follows` — a reading does what a rule does.
* `SheetFormula.Formula.Counting.Call.IsReading` — a call does what the rule of its routine does.
* `SheetFormula.Formula.Counting.Simulates` — all routines do, with some levels left.

## Main results

* `SheetFormula.Formula.Counting.simulates` — the routines do what the rules do.
-/

set_option relaxedAutoImplicit false
set_option autoImplicit false

namespace SheetFormula.Formula.Counting

/-! ## Rules of routines -/

/-- The rule of a routine with some levels left. -/
def Routine.rule (routine : Routine) (limit : ℕ) : Rule Expr :=
  match routine with
  | .expression => Formula.expression (nestedAt limit)
  | .phrase category => ruleOf category limit

/-- The operators of the levels of a routine can be told apart. -/
def Routine.Proper : Routine → Prop
  | .expression => True
  | .phrase category => category.Proper

/-- A call reads what the rule of its routine reads, and returns at the depth at which it was
entered. -/
inductive Call.IsReading (tokens : Tokens) : Call → Prop
  | intro {routine : Routine} {inner rest : List Token} {value : Expr}
    {shorter : rest.length < inner.length} {depth limit : ℕ} (hproper : routine.Proper)
    (hinner : inner <:+ tokens) (hrest : rest <:+ inner) (hdepth : depth + limit = maxDepth)
    (hrule : routine.rule limit inner = .ok ⟨value, rest, shorter⟩) :
    Call.IsReading tokens ⟨routine, standing tokens inner depth, standing tokens rest depth, value⟩

/-! ## Readings that follow rules -/

variable {α β : Type} {tokens : Tokens} {inner inner' rest rest' : List Token}
  {depth depth' depth'' : ℕ}

/-- A reading that begins in front of `rest` does what a rule does: it ends with the same value in
front of the same tokens, or with the same fault at the same place, and the calls that it notes are
readings of rules. -/
structure Follows (tokens : Tokens) (reading : Reading α) (depth : ℕ) (rest : List Token)
    (result : Except Stop (Parsed α inner)) (depth' : ℕ) : Prop where
  ok : ∀ parsed, result = .ok parsed → parsed.rest <:+ rest ∧ ∀ calls, ∃ more,
    (∀ call ∈ more, Call.IsReading tokens call) ∧
      reading.outcome ⟨standing tokens rest depth, calls⟩ =
        some (.ok parsed.value, ⟨standing tokens parsed.rest depth', more ++ calls⟩)
  error : ∀ stop, result = .error stop → ∀ calls, ∃ more place,
    (∀ call ∈ more, Call.IsReading tokens call) ∧
      reading.outcome ⟨standing tokens rest depth, calls⟩ =
        some (.error (.fault ⟨stop.fault, tokens.length - stop.left⟩), ⟨place, more ++ calls⟩)

/-- A value that has been read is returned. -/
lemma follows_pure {value : α} {parsed : Parsed α inner} (hvalue : parsed.value = value)
    (hrest : parsed.rest = rest) : Follows tokens (pure value) depth rest (.ok parsed) depth where
  ok := by
    rintro _ ⟨⟩
    subst hvalue hrest
    exact ⟨List.suffix_rfl, fun calls => ⟨[], by simp, rfl⟩⟩
  error := by
    rintro _ ⟨⟩

/-- Readings follow each other as rules do. -/
lemma Follows.bind {first : Reading α} {next : α → Reading β}
    {result : Except Stop (Parsed α inner)} {go : Parsed α inner → Except Stop (Parsed β inner')}
    (hfirst : Follows tokens first depth rest result depth')
    (hnext : ∀ parsed, result = .ok parsed → parsed.rest <:+ rest →
      Follows tokens (next parsed.value) depth' parsed.rest (go parsed) depth'') :
    Follows tokens (first >>= next) depth rest (result >>= go) depth'' := by
  cases hresult : result with
  | error stop =>
    refine ⟨?_, ?_⟩
    · rintro _ ⟨⟩
    · rintro _ ⟨⟩ calls
      obtain ⟨more, place, hmore, hrun⟩ := hfirst.error stop hresult calls
      exact ⟨more, place, hmore, outcome_bind_of_error hrun⟩
  | ok parsed =>
    obtain ⟨hsuffix, hread⟩ := hfirst.ok parsed hresult
    have hgo := hnext parsed hresult hsuffix
    refine ⟨fun final hfinal => ?_, fun stop hstop calls => ?_⟩
    · obtain ⟨hsuffix', hread'⟩ := hgo.ok final hfinal
      refine ⟨hsuffix'.trans hsuffix, fun calls => ?_⟩
      obtain ⟨more, hmore, hrun⟩ := hread calls
      obtain ⟨more', hmore', hrun'⟩ := hread' (more ++ calls)
      refine ⟨more' ++ more, List.forall_mem_append.mpr ⟨hmore', hmore⟩, ?_⟩
      rw [outcome_bind_of_ok hrun, hrun', List.append_assoc]
    · obtain ⟨more, hmore, hrun⟩ := hread calls
      obtain ⟨more', place, hmore', hrun'⟩ := hgo.error stop hstop (more ++ calls)
      refine ⟨more' ++ more, place, List.forall_mem_append.mpr ⟨hmore', hmore⟩, ?_⟩
      rw [outcome_bind_of_ok hrun, hrun', List.append_assoc]

/-- A step that notes nothing may come first. -/
lemma Passes.follows {first : Reading α} {next : α → Reading β} {value : α}
    {result : Except Stop (Parsed β inner)}
    (hfirst : Passes first (standing tokens rest depth) value (standing tokens rest' depth'))
    (hsuffix : rest' <:+ rest) (hnext : Follows tokens (next value) depth' rest' result depth'') :
    Follows tokens (first >>= next) depth rest result depth'' where
  ok := by
    intro parsed hparsed
    obtain ⟨hsuffix', hread⟩ := hnext.ok parsed hparsed
    refine ⟨hsuffix'.trans hsuffix, fun calls => ?_⟩
    rw [outcome_bind_of_ok (hfirst calls)]
    exact hread calls
  error := by
    intro stop hstop calls
    rw [outcome_bind_of_ok (hfirst calls)]
    exact hnext.error stop hstop calls

/-- Two results with the same value in front of the same tokens, or the same fault. -/
def SameResult (result : Except Stop (Parsed α inner)) (result' : Except Stop (Parsed α inner')) :
    Prop :=
  result.map (fun parsed => (parsed.value, parsed.rest)) =
    result'.map (fun parsed => (parsed.value, parsed.rest))

/-- Of two rules with the same result, a reading does what one does if it does what the other
does. -/
lemma Follows.congr {reading : Reading α} {result : Except Stop (Parsed α inner)}
    {result' : Except Stop (Parsed α inner')} (h : Follows tokens reading depth rest result depth')
    (hsame : SameResult result result') : Follows tokens reading depth rest result' depth' := by
  cases result with
  | error stop =>
    cases result' with
    | error stop' =>
      cases hsame
      exact ⟨by rintro _ ⟨⟩, by rintro _ ⟨⟩; exact h.error stop rfl⟩
    | ok parsed' => cases hsame
  | ok parsed =>
    cases result' with
    | error stop' => cases hsame
    | ok parsed' =>
      obtain ⟨value, behind, shorter⟩ := parsed
      obtain ⟨value', behind', shorter'⟩ := parsed'
      cases hsame
      exact ⟨by rintro _ ⟨⟩; exact h.ok _ rfl, by rintro _ ⟨⟩⟩

/-- The value of a second step may be changed instead of that of both. -/
lemma map_bind_eq {γ : Type} (f : β → γ) (first : Except Stop α) (next : α → Except Stop β) :
    (first >>= next).map f = first >>= fun value => (next value).map f := by
  cases first <;> rfl

/-! ### Faults -/

/-- A reading stops with a fault, and notes nothing. -/
def Fails (reading : Reading α) (place : Place) (failure : ParseFailure) : Prop :=
  ∀ calls, ∃ place',
    reading.outcome ⟨place, calls⟩ = some (.error (.fault failure), ⟨place', calls⟩)

/-- A reading that stops with a fault does what a rule with this fault does. -/
lemma Fails.follows {reading : Reading α} {fault : ParseFault} {left : ℕ}
    (h : Fails reading (standing tokens rest depth) ⟨fault, tokens.length - left⟩) :
    Follows tokens reading depth rest
      (.error ⟨fault, left⟩ : Except Stop (Parsed α inner)) depth' where
  ok := by
    rintro _ ⟨⟩
  error := by
    rintro _ ⟨⟩ calls
    obtain ⟨place, hrun⟩ := h calls
    exact ⟨[], place, by simp, hrun⟩

/-- Nothing comes after a fault. -/
lemma Fails.bind {first : Reading α} {next : α → Reading β} {place : Place}
    {failure : ParseFailure} (h : Fails first place failure) :
    Fails (first >>= next) place failure := by
  intro calls
  obtain ⟨place', hrun⟩ := h calls
  exact ⟨place', outcome_bind_of_error hrun⟩

/-- A fault may come after a step. -/
lemma Passes.fails {first : Reading α} {next : α → Reading β} {place place' : Place} {value : α}
    {failure : ParseFailure} (hfirst : Passes first place value place')
    (hnext : Fails (next value) place' failure) : Fails (first >>= next) place failure := by
  intro calls
  rw [outcome_bind_of_ok (hfirst calls)]
  exact hnext calls

/-- A reading that fails does so at its place. -/
lemma fails_fail (fault : ParseFault) (place : Place) :
    Fails (fail fault : Reading α) place ⟨fault, place.position⟩ :=
  fun _ => ⟨place, rfl⟩

/-- Without a level that is left, the reading stops. -/
lemma fails_descend (h : maxDepth ≤ depth) :
    Fails descend (standing tokens rest depth) ⟨.tooDeep, tokens.length - rest.length⟩ := by
  have hmore : maxDepth < (standing tokens rest depth).depth + 1 := Nat.lt_succ_of_le h
  refine (passes_here _).fails ((passes_moveTo _ _).fails ?_)
  rw [if_pos hmore]
  exact fails_fail _ _

/-! ### Levels and expected tokens -/

/-- Behind a part that follows a rule, what has been read is returned. -/
lemma Follows.finish {first : Reading α} {next : α → Reading α}
    {result : Except Stop (Parsed α inner)} (hfirst : Follows tokens first depth rest result depth')
    (hnext : ∀ parsed : Parsed α inner, parsed.rest <:+ rest →
      Follows tokens (next parsed.value) depth' parsed.rest (.ok parsed) depth'') :
    Follows tokens (first >>= next) depth rest result depth'' := by
  have hbind : Follows tokens (first >>= next) depth rest (result >>= Except.ok) depth'' :=
    hfirst.bind fun parsed _ hsuffix => hnext parsed hsuffix
  cases result <;> exact hbind

/-- A value that has been read some levels down is returned after these levels are gone up. -/
lemma follows_ascend (levels : ℕ) {value : α} {parsed : Parsed α inner}
    (hvalue : parsed.value = value) (hrest : parsed.rest = rest) :
    Follows tokens (ascend levels >>= fun _ => pure value) (depth + levels) rest (.ok parsed)
      depth :=
  (passes_ascend levels).follows List.suffix_rfl (follows_pure hvalue hrest)

/-- Going down a level is the step to the rules of the next deeper level. -/
lemma follows_descend {limit : ℕ} (hdepth : depth + limit = maxDepth) {reading : Reading α}
    {go : Grammar → Except Stop (Parsed α inner)}
    (h : ∀ below, limit = below + 1 →
      Follows tokens reading (depth + 1) rest (go (build (nestedAt below))) depth') :
    Follows tokens (descend >>= fun _ => reading) depth rest
      (deeper (nestedAt limit) rest.length go) depth' := by
  cases limit with
  | zero => exact (fails_descend (by omega)).bind.follows
  | succ below =>
    have hgo := h below rfl
    rw [← grammar_eq] at hgo
    exact (passes_descend (by omega)).follows List.suffix_rfl hgo

/-- Taking an expected token is what a rule does when it expects one. -/
lemma follows_expect {parsed : Parsed α inner} (hrest : parsed.rest <:+ tokens)
    {expected : Token → Bool} {fault : ParseFault} {reading : Reading β}
    {go : Parsed α inner → Except Stop (Parsed β inner')}
    (h : ∀ closed : Parsed α inner, closed.value = parsed.value → closed.rest <:+ parsed.rest →
      Follows tokens reading depth closed.rest (go closed) depth') :
    Follows tokens (tokens.expectToken expected fault >>= fun _ => reading) depth parsed.rest
      (expect expected fault parsed >>= go) depth' := by
  obtain ⟨value, behind, shorter⟩ := parsed
  have hnone (hnot : ∀ token ∈ behind.head?, ¬ expected token) :
      Fails (tokens.expectToken expected fault) (standing tokens behind depth)
        ⟨fault, tokens.length - behind.length⟩ :=
    (passes_matchToken_false hrest hnot).fails (fails_fail _ _)
  cases behind with
  | nil => exact (hnone (by simp)).bind.follows
  | cons token more =>
    by_cases hexpected : expected token
    · have hclosed := h ⟨value, more, by simp at shorter; omega⟩ rfl (List.suffix_cons _ _)
      simp only [expect, hexpected, ↓reduceIte]
      exact (passes_expectToken hrest hexpected).follows (List.suffix_cons _ _) hclosed
    · simp only [expect, hexpected, Bool.false_eq_true, ↓reduceIte]
      exact (hnone (by simpa using hexpected)).bind.follows

/-! ## Loops -/

/-- What a loop has built, with all its levels gone up. -/
def releases (loop : Reading Grown) : Reading Expr := do
  let grown ← loop
  ascend grown.levels
  return grown.tree

/-- A step before a loop is a step before its levels are gone up. -/
lemma releases_bind (first : Reading α) (next : α → Reading Grown) :
    releases (first >>= next) = first >>= fun value => releases (next value) := by
  simp [releases]

/-- A loop that ends goes up the levels that it has gone down. -/
lemma follows_releases_pure {levels : ℕ} {value : Expr} {parsed : Parsed Expr inner}
    (hvalue : parsed.value = value) (hrest : parsed.rest = rest) :
    Follows tokens (releases (pure ⟨value, levels⟩)) (depth + levels) rest (.ok parsed) depth := by
  rw [releases, pure_bind]
  exact follows_ascend levels hvalue hrest

/-! ## Routines that follow rules -/

/-- The name that an expression lets one call, if it can be called. -/
def calleeOf : Bool → Expr → Option String
  | true, .reference name => some name
  | _, _ => none

/-- The routines do what the rules do, with some levels left. -/
structure Simulates (tokens : Tokens) (limit : ℕ) : Prop where
  run : ∀ (routine : Routine) (inner : List Token) (depth : ℕ), routine.Proper → inner <:+ tokens →
    depth + limit = maxDepth →
    Follows tokens (tokens.run routine) depth inner (routine.rule limit inner) depth
  chainLoop : ∀ {level : Level} {tighter : List Level} {inner rest : List Token}
    {left : Parsed Expr inner} {value : Expr} {depth levels : ℕ}, left.value = value →
    left.rest = rest → (Category.chain tighter).Proper → rest <:+ tokens →
    depth + levels + limit = maxDepth →
    Follows tokens (releases (tokens.chainLoop level tighter ⟨value, levels⟩)) (depth + levels) rest
      (Formula.chainRest (nestedAt limit) level tighter left) depth
  suffixLoop : ∀ {callable : Bool} {inner rest : List Token} {object : Parsed Expr inner}
    {value : Expr} {depth levels : ℕ}, object.value = value → object.rest = rest →
    rest <:+ tokens → depth + levels + limit = maxDepth →
    Follows tokens (releases (tokens.suffixLoop callable ⟨value, levels⟩)) (depth + levels) rest
      (Formula.suffixes (nestedAt limit) (calleeOf callable value) object) depth

/-- The routines do what the rules do on the next deeper level, if there is one. -/
def SimulatesBelow (tokens : Tokens) (limit : ℕ) : Prop :=
  ∀ below, limit = below + 1 → Simulates tokens below

variable {limit : ℕ}

/-- A conditional one level deeper is read as its rule reads it. -/
lemma expression_follows (hbelow : SimulatesBelow tokens limit) (hinner : inner <:+ tokens)
    (hdepth : depth + limit = maxDepth) :
    Follows tokens tokens.expression depth inner (Formula.expression (nestedAt limit) inner)
      depth := by
  rw [Tokens.expression]
  refine follows_descend hdepth fun below hlimit => ?_
  have hread := (hbelow below hlimit).run (.phrase .conditional) inner (depth + 1) trivial hinner
    (by omega)
  exact hread.finish fun parsed _ => follows_ascend 1 rfl rfl

/-- A unary is read as its rule reads it. -/
lemma unary_follows (hbelow : SimulatesBelow tokens limit)
    (hpower : Follows tokens (tokens.run (.phrase .power)) depth inner
      (Formula.power (nestedAt limit) inner) depth)
    (hinner : inner <:+ tokens) (hdepth : depth + limit = maxDepth) :
    Follows tokens tokens.unary depth inner (Formula.unary (nestedAt limit) inner) depth := by
  have of_none (hnone : ∀ op more, inner = .operator op :: more → op ∉ unaryOperators) :
      Follows tokens tokens.unary depth inner (Formula.power (nestedAt limit) inner) depth := by
    rw [Tokens.unary]
    exact (passes_matchOperator_none hinner hnone).follows List.suffix_rfl hpower
  unfold Formula.unary
  split
  · next op rest =>
    split_ifs with hop
    · rw [Tokens.unary]
      refine (passes_matchOperator_some hinner hop).follows (List.suffix_cons _ _) ?_
      refine follows_descend hdepth fun below hlimit => ?_
      have hoperand := (hbelow below hlimit).run (.phrase .unary) rest (depth + 1) trivial
        ((List.suffix_cons _ _).trans hinner) (by omega)
      exact hoperand.bind fun operand _ _ => follows_ascend 1 rfl rfl
    · exact of_none fun op' more heq => by cases heq; exact hop
  · next hnone => exact of_none fun op more heq => absurd heq (hnone op more)

/-- A power is read as its rule reads it. -/
lemma power_follows (hbelow : SimulatesBelow tokens limit)
    (haccess : Follows tokens (tokens.run (.phrase .access)) depth inner
      (Formula.suffixed (nestedAt limit) inner) depth)
    (hinner : inner <:+ tokens) (hdepth : depth + limit = maxDepth) :
    Follows tokens tokens.power depth inner (Formula.power (nestedAt limit) inner) depth := by
  rw [Tokens.power]
  refine haccess.bind fun base _ hbase => ?_
  obtain ⟨value, behind, shorter⟩ := base
  have hbehind : behind <:+ tokens := hbase.trans hinner
  split
  · next rest hrest =>
    obtain rfl : behind = .operator .power :: rest := hrest
    refine (passes_matchOperator_some hbehind (by simp)).follows (List.suffix_cons _ _) ?_
    refine follows_descend hdepth fun below hlimit => ?_
    have hexponent := (hbelow below hlimit).run (.phrase .unary) rest (depth + 1) trivial
      ((List.suffix_cons _ _).trans hbehind) (by omega)
    exact hexponent.bind fun exponent _ _ => follows_ascend 1 rfl rfl
  · next hnone =>
    refine (passes_matchOperator_none hbehind fun op more heq => ?_).follows List.suffix_rfl
      (follows_pure rfl rfl)
    rintro hop
    obtain rfl := List.mem_singleton.mp hop
    exact hnone more heq

/-- The further operators of a chain are read as their rule reads them. -/
lemma chainLoop_follows (hbelow : SimulatesBelow tokens limit) {level : Level}
    {tighter : List Level} {left : Parsed Expr inner} {value : Expr} {levels : ℕ}
    (hvalue : left.value = value) (hrest : left.rest = rest)
    (hproper : (Category.chain tighter).Proper) (hsuffix : rest <:+ tokens)
    (hdepth : depth + levels + limit = maxDepth) :
    Follows tokens (releases (tokens.chainLoop level tighter ⟨value, levels⟩)) (depth + levels) rest
      (Formula.chainRest (nestedAt limit) level tighter left) depth := by
  obtain ⟨value, behind, shorter⟩ := left
  subst hvalue hrest
  have of_none (hnone : ∀ op more, behind = .operator op :: more → op ∉ level) :
      Follows tokens (releases (tokens.chainLoop level tighter ⟨value, levels⟩)) (depth + levels)
        behind (.ok ⟨value, behind, shorter⟩ : Except Stop (Parsed Expr inner)) depth := by
    rw [Tokens.chainLoop, releases_bind]
    exact (passes_matchOperator_none hsuffix hnone).follows List.suffix_rfl
      (follows_releases_pure rfl rfl)
  unfold Formula.chainRest
  split
  · next op more hmore =>
    obtain rfl : behind = .operator op :: more := hmore
    split_ifs with hop
    · rw [Tokens.chainLoop, releases_bind]
      refine (passes_matchOperator_some hsuffix hop).follows (List.suffix_cons _ _) ?_
      dsimp only
      rw [releases_bind]
      refine follows_descend hdepth fun below hlimit => ?_
      have hmore : more <:+ tokens := (List.suffix_cons _ _).trans hsuffix
      have hright := (hbelow below hlimit).run (.phrase (.chain tighter)) more (depth + levels + 1)
        hproper hmore (by omega)
      rw [releases_bind]
      exact hright.bind fun right _ hbehind =>
        (hbelow below hlimit).chainLoop rfl rfl hproper (hbehind.trans hmore) (by omega)
    · exact of_none fun op' more heq => by cases heq; exact hop
  · next hnone => exact of_none fun op more heq => absurd heq (hnone op more)

/-- Where a token does not come next, no token comes next that only this one could be. -/
lemma forall_head?_not {expected : Token → Bool} {only : Token}
    (honly : ∀ {token : Token}, expected token → token = only)
    (hnone : ∀ more, rest = only :: more → False) : ∀ token ∈ rest.head?, ¬ expected token := by
  rintro token htoken hexpected
  obtain rfl := honly hexpected
  obtain ⟨more, hmore⟩ := List.head?_eq_some_iff.mp htoken
  exact hnone more hmore

/-! ### Arguments and suffixes -/

/-- Expressions are read at some depth as a rule reads them. -/
def ReadsExpressions (tokens : Tokens) (depth : ℕ) (rule : Rule Expr) : Prop :=
  ∀ inner, inner <:+ tokens → Follows tokens (tokens.run .expression) depth inner (rule inner) depth

variable {rule : Rule Expr}

/-- Expressions between commas are collected in the order in which the rule lists them. -/
lemma commaSeparated_follows (hinside : ReadsExpressions tokens depth rule) :
    ∀ (inner : List Token) (list : List Expr), inner <:+ tokens →
      Follows tokens (tokens.run .expression >>= fun next => tokens.argumentLoop (list ++ [next]))
        depth inner ((commaSeparated rule inner).map (Parsed.map (list ++ ·))) depth := by
  intro inner
  induction hlength : inner.length using Nat.strongRecOn generalizing inner with
  | ind length ih =>
    intro list hinner
    rw [commaSeparated, map_bind_eq]
    refine (hinside inner hinner).bind fun first _ hfirst => ?_
    obtain ⟨value, behind, shorter⟩ := first
    have hbehind : behind <:+ tokens := hfirst.trans hinner
    rw [Tokens.argumentLoop]
    split
    · next rest hrest =>
      obtain rfl : behind = .comma :: rest := hrest
      have hless : rest.length < length := by
        simp only [List.length_cons] at shorter
        omega
      have hmore := ih rest.length hless rest rfl (list ++ [value])
        ((List.suffix_cons _ _).trans hbehind)
      refine (passes_matchToken_true hbehind rfl).follows (List.suffix_cons _ _) ?_
      refine hmore.congr ?_
      cases commaSeparated rule rest with
      | error stop => rfl
      | ok more =>
        simp [SameResult, Parsed.map, Parsed.widen, Except.map, bind, Except.bind, pure,
          Except.pure]
    · next hnone =>
      have hcomma := forall_head?_not @eq_comma hnone
      exact (passes_matchToken_false hbehind hcomma).follows List.suffix_rfl
        (follows_pure rfl rfl)

/-- The arguments of a call are read as their rule reads them, with the closing parenthesis. -/
lemma arguments_follows (hinside : ReadsExpressions tokens depth rule) (hinner : inner <:+ tokens)
    {next : List Expr → Reading β} {go : Parsed (List Expr) inner → Except Stop (Parsed β inner')}
    (hnext : ∀ list : Parsed (List Expr) inner, list.rest <:+ inner →
      Follows tokens (next list.value) depth list.rest (go list) depth') :
    Follows tokens (do
        let list ← tokens.arguments
        tokens.expectToken Token.closesParen .unclosedArguments
        next list)
      depth inner (Formula.arguments rule inner >>= go) depth' := by
  have hlist : Follows tokens
      (tokens.run .expression >>= fun first => tokens.argumentLoop [first]) depth inner
      (commaSeparated rule inner) depth := by
    refine (commaSeparated_follows hinside inner [] hinner).congr ?_
    cases commaSeparated rule inner <;> simp [SameResult, Parsed.map, Except.map]
  unfold Formula.arguments
  split
  · next rest =>
    rw [Tokens.arguments, bind_assoc]
    refine (passes_peek hinner).follows List.suffix_rfl ?_
    simp only [List.head?_cons, pure_bind]
    refine (passes_expectToken hinner rfl).follows (List.suffix_cons _ _) ?_
    exact hnext ⟨[], rest, Nat.lt_succ_self _⟩ (List.suffix_cons _ _)
  · next hnone =>
    have hopen : Follows tokens tokens.arguments depth inner (commaSeparated rule inner)
        depth := by
      rw [Tokens.arguments]
      refine (passes_peek hinner).follows List.suffix_rfl ?_
      cases inner with
      | nil => exact hlist
      | cons token more =>
        cases token with
        | closeParen => exact absurd rfl (hnone more)
        | _ => exact hlist
    rw [bind_assoc]
    refine hopen.bind fun list _ hsuffix => ?_
    refine follows_expect (hsuffix.trans hinner) fun closed hvalue hclosed => ?_
    rw [← hvalue]
    exact hnext closed (hclosed.trans hsuffix)

/-- A property is read as its rule reads it. -/
lemma property_follows (hdot : .dot :: inner <:+ tokens) :
    Follows tokens tokens.property depth inner (Formula.property inner) depth := by
  have hinner : inner <:+ tokens := (List.suffix_cons _ _).trans hdot
  cases inner with
  | nil => exact ((passes_advance_end hdot).fails (fails_fail _ _)).follows
  | cons token more =>
    refine (passes_advance hinner).follows (List.suffix_cons _ _) ?_
    cases token with
    | name name => exact follows_pure rfl rfl
    | operator op =>
      by_cases hop : op.isWord
      · simp only [Formula.property, hop, ↓reduceIte]
        exact follows_pure rfl rfl
      · simp only [Formula.property, hop, Bool.false_eq_true, ↓reduceIte]
        exact (fails_fail _ _).follows
    | _ => exact (fails_fail _ _).follows

/-- The suffixes of an expression are read as their rule reads them. -/
lemma suffixLoop_follows (hbelow : SimulatesBelow tokens limit) {callable : Bool}
    {object : Parsed Expr inner} {value : Expr} {levels : ℕ} (hvalue : object.value = value)
    (hrest : object.rest = rest) (hsuffix : rest <:+ tokens)
    (hdepth : depth + levels + limit = maxDepth) :
    Follows tokens (releases (tokens.suffixLoop callable ⟨value, levels⟩)) (depth + levels) rest
      (Formula.suffixes (nestedAt limit) (calleeOf callable value) object) depth := by
  obtain ⟨value, behind, shorter⟩ := object
  subst hvalue hrest
  rw [Tokens.suffixLoop, releases_bind]
  refine (passes_peek hsuffix).follows List.suffix_rfl ?_
  cases behind with
  | nil => exact follows_releases_pure rfl rfl
  | cons token more =>
    have hmore : more <:+ tokens := (List.suffix_cons _ _).trans hsuffix
    cases token with
    | openParen =>
      simp only [List.head?_cons, releases_bind]
      refine follows_descend hdepth fun below hlimit => ?_
      refine (passes_advance hsuffix).follows (List.suffix_cons _ _) ?_
      have hinside : ReadsExpressions tokens (depth + levels + 1)
          (Formula.expression (nestedAt below)) := fun inner hinner =>
        (hbelow below hlimit).run .expression inner _ trivial hinner (by omega)
      refine arguments_follows hinside hmore fun list hlist => ?_
      have hlist' : list.rest <:+ tokens := hlist.trans hmore
      have hnone : Follows tokens (releases (fail .notCallable)) (depth + levels + 1) list.rest
          (.error ⟨.notCallable, list.rest.length⟩ : Except Stop (Parsed Expr inner)) depth :=
        (fails_fail _ _).bind.follows
      cases callable with
      | false => exact hnone
      | true =>
        cases value with
        | reference name => exact (hbelow below hlimit).suffixLoop rfl rfl hlist' (by omega)
        | _ => exact hnone
    | openBracket =>
      simp only [List.head?_cons, releases_bind]
      refine follows_descend hdepth fun below hlimit => ?_
      refine (passes_advance hsuffix).follows (List.suffix_cons _ _) ?_
      have hkey := (hbelow below hlimit).run .expression more (depth + levels + 1) trivial hmore
        (by omega)
      refine hkey.bind fun key _ hkey => ?_
      refine follows_expect (hkey.trans hmore) fun closed hvalue hclosed => ?_
      rw [← hvalue]
      exact (hbelow below hlimit).suffixLoop rfl rfl ((hclosed.trans hkey).trans hmore) (by omega)
    | dot =>
      simp only [List.head?_cons, releases_bind]
      refine follows_descend hdepth fun below hlimit => ?_
      refine (passes_advance hsuffix).follows (List.suffix_cons _ _) ?_
      exact (property_follows hsuffix).bind fun name _ hname =>
        (hbelow below hlimit).suffixLoop rfl rfl (hname.trans hmore) (by omega)
    | _ => exact follows_releases_pure rfl rfl

/-! ### Primaries, chains and branches -/

/-- A primary is read as its rule reads it. -/
lemma primary_follows (hinside : ReadsExpressions tokens depth rule) (hinner : inner <:+ tokens) :
    Follows tokens tokens.primary depth inner (Formula.primary rule inner) depth := by
  rw [Tokens.primary]
  refine (passes_peek hinner).follows List.suffix_rfl ?_
  cases inner with
  | nil => exact (fails_fail _ _).follows
  | cons token more =>
    have hmore : more <:+ token :: more := List.suffix_cons _ _
    cases token with
    | number | text | name =>
      exact (passes_advance hinner).follows hmore (follows_pure rfl rfl)
    | openParen =>
      refine (passes_advance hinner).follows hmore ?_
      refine (hinside more (hmore.trans hinner)).bind fun inside _ hinside => ?_
      exact follows_expect (hinside.trans (hmore.trans hinner)) fun closed hvalue _ =>
        follows_pure hvalue rfl
    | _ => exact (fails_fail _ _).follows

/-- A primary lets one call what the tokens let one call. -/
lemma calleeOf_primary {head : Parsed Expr inner} (h : Formula.primary rule inner = .ok head) :
    calleeOf (inner.head?.any Token.isName) head.value = callee? inner := by
  cases inner with
  | nil => cases h
  | cons token more =>
    cases token with
    | name name =>
      cases h
      cases hconstant : constant? name with
      | none => simp [calleeOf, callee?, ofName, hconstant, Token.isName]
      | some value =>
        have hvalue : calleeOf true value = none := by
          have hmem := constant?_eq_some hconstant
          simp only [constants, List.mem_cons, Prod.mk.injEq, List.not_mem_nil, or_false] at hmem
          rcases hmem with ⟨-, rfl⟩ | ⟨-, rfl⟩ | ⟨-, rfl⟩ | ⟨-, rfl⟩ | ⟨-, rfl⟩ | ⟨-, rfl⟩ <;> rfl
        simpa [callee?, ofName, hconstant, Token.isName] using hvalue
    | _ => rfl

/-- A suffixed primary is read as its rule reads it. -/
lemma access_follows (hbelow : SimulatesBelow tokens limit)
    (hprimary : Follows tokens (tokens.run (.phrase .primary)) depth inner
      (Formula.primary (Formula.expression (nestedAt limit)) inner) depth)
    (hinner : inner <:+ tokens) (hdepth : depth + limit = maxDepth) :
    Follows tokens tokens.access depth inner (Formula.suffixed (nestedAt limit) inner) depth := by
  rw [Tokens.access]
  refine (passes_peek hinner).follows List.suffix_rfl ?_
  refine hprimary.bind fun head hhead hsuffix => ?_
  rw [← calleeOf_primary hhead]
  exact suffixLoop_follows hbelow rfl rfl (hsuffix.trans hinner) hdepth

/-- A conditional is read as its rule reads it. -/
lemma conditional_follows (hbelow : SimulatesBelow tokens limit)
    (hchain : Follows tokens (tokens.run (.phrase (.chain levels))) depth inner
      (Formula.chain (nestedAt limit) levels inner) depth)
    (hinner : inner <:+ tokens) (hdepth : depth + limit = maxDepth) :
    Follows tokens tokens.conditional depth inner (Formula.conditional (nestedAt limit) inner)
      depth := by
  rw [Tokens.conditional]
  refine hchain.bind fun condition _ hcondition => ?_
  obtain ⟨value, behind, shorter⟩ := condition
  have hbehind : behind <:+ tokens := hcondition.trans hinner
  split
  · next rest hrest =>
    obtain rfl : behind = .question :: rest := hrest
    have hrest : rest <:+ tokens := (List.suffix_cons _ _).trans hbehind
    refine (passes_matchToken_true hbehind rfl).follows (List.suffix_cons _ _) ?_
    refine follows_descend hdepth fun below hlimit => ?_
    have hread := fun inner hinner =>
      (hbelow below hlimit).run (.phrase .conditional) inner (depth + 1) trivial hinner (by omega)
    refine (hread rest hrest).bind fun whenTrue _ htrue => ?_
    refine follows_expect (htrue.trans hrest) fun separated hvalue hseparated => ?_
    have hfalse := hread separated.rest (hseparated.trans (htrue.trans hrest))
    refine hfalse.bind fun whenFalse _ _ => ?_
    rw [← hvalue]
    exact follows_ascend 1 rfl rfl
  · next hnone =>
    have hquestion := forall_head?_not @eq_question hnone
    exact (passes_matchToken_false hbehind hquestion).follows List.suffix_rfl (follows_pure rfl rfl)

/-! ### Calls -/

/-- A call does what its routine does, and is noted when the routine returns. -/
lemma run_follows (routine : Routine) (hproper : routine.Proper) (hinner : inner <:+ tokens)
    (hdepth : depth + limit = maxDepth)
    (hbody : Follows tokens (tokens.body routine) depth inner (routine.rule limit inner) depth) :
    Follows tokens (tokens.run routine) depth inner (routine.rule limit inner) depth := by
  rw [Tokens.run]
  refine (passes_here _).follows List.suffix_rfl ?_
  refine ⟨fun parsed hrule => ?_, fun stop hrule calls => ?_⟩
  · obtain ⟨hrest, hread⟩ := hbody.ok parsed hrule
    refine ⟨hrest, fun calls => ?_⟩
    obtain ⟨more, hmore, hend⟩ := hread calls
    have hcall := Call.IsReading.intro hproper hinner hrest hdepth hrule
    refine ⟨_ :: more, List.forall_mem_cons.mpr ⟨hcall, hmore⟩, ?_⟩
    rw [outcome_bind_of_ok hend]
    rfl
  · obtain ⟨more, place, hmore, hend⟩ := hbody.error stop hrule calls
    exact ⟨more, place, hmore, outcome_bind_of_error hend⟩

/-- A call of a chain does what the rule of the chain does. The induction is on the levels. -/
lemma run_chain_follows (hbelow : SimulatesBelow tokens limit)
    (hunary : Follows tokens (tokens.run (.phrase .unary)) depth inner
      (Formula.unary (nestedAt limit) inner) depth)
    (hinner : inner <:+ tokens) (hdepth : depth + limit = maxDepth) (levels : List Level)
    (hproper : (Category.chain levels).Proper) :
    Follows tokens (tokens.run (.phrase (.chain levels))) depth inner
      (Formula.chain (nestedAt limit) levels inner) depth := by
  induction levels with
  | nil =>
    refine run_follows (.phrase (.chain [])) hproper hinner hdepth ?_
    rw [Tokens.body, Tokens.chain]
    exact hunary
  | cons level tighter ih =>
    refine run_follows (.phrase (.chain (level :: tighter))) hproper hinner hdepth ?_
    rw [Tokens.body, Tokens.chain]
    exact (ih hproper.tighter).bind fun first _ hfirst =>
      chainLoop_follows hbelow rfl rfl hproper.tighter (hfirst.trans hinner) hdepth

/-- A call does what its rule does if calls do so on the next deeper level. Each routine comes after
those that it calls on its own level. -/
lemma run_follows_of_below (hbelow : SimulatesBelow tokens limit) (routine : Routine)
    (hproper : routine.Proper) (hinner : inner <:+ tokens) (hdepth : depth + limit = maxDepth) :
    Follows tokens (tokens.run routine) depth inner (routine.rule limit inner) depth := by
  have hexpression : ReadsExpressions tokens depth (Formula.expression (nestedAt limit)) := by
    intro inner hinner
    refine run_follows .expression trivial hinner hdepth ?_
    rw [Tokens.body]
    exact expression_follows hbelow hinner hdepth
  have hprimary := run_follows (.phrase .primary) trivial hinner hdepth (by
    rw [Tokens.body]
    exact primary_follows hexpression hinner)
  have haccess := run_follows (.phrase .access) trivial hinner hdepth (by
    rw [Tokens.body]
    exact access_follows hbelow hprimary hinner hdepth)
  have hpower := run_follows (.phrase .power) trivial hinner hdepth (by
    rw [Tokens.body]
    exact power_follows hbelow haccess hinner hdepth)
  have hunary := run_follows (.phrase .unary) trivial hinner hdepth (by
    rw [Tokens.body]
    exact unary_follows hbelow hpower hinner hdepth)
  have hchain := run_chain_follows hbelow hunary hinner hdepth
  have hconditional := run_follows (.phrase .conditional) trivial hinner hdepth (by
    rw [Tokens.body]
    exact conditional_follows hbelow (hchain levels proper_formulaLevels) hinner hdepth)
  cases routine with
  | expression => exact hexpression inner hinner
  | phrase category =>
    cases category with
    | conditional => exact hconditional
    | chain levels => exact hchain levels hproper
    | unary => exact hunary
    | power => exact hpower
    | access => exact haccess
    | primary => exact hprimary

/-- **The routines do what the rules do**, with any number of levels left.

**Proof sketch.** Induction on the levels left. With none left, every routine stops where the rules
do, because it cannot go down a level; with one more, what is read a level deeper is read as the
rules read it by induction. -/
theorem simulates (tokens : Tokens) (limit : ℕ) : Simulates tokens limit := by
  have step {limit : ℕ} (hbelow : SimulatesBelow tokens limit) : Simulates tokens limit :=
    { run := fun routine _ _ hproper hinner hdepth =>
        run_follows_of_below hbelow routine hproper hinner hdepth
      chainLoop := chainLoop_follows hbelow
      suffixLoop := suffixLoop_follows hbelow }
  induction limit with
  | zero => exact step fun below hlimit => by omega
  | succ limit ih =>
    refine step fun below hlimit => ?_
    obtain rfl : limit = below := Nat.succ.inj hlimit
    exact ih

end SheetFormula.Formula.Counting

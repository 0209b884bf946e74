import SheetFormula.Proofs.Evaluation.Recursion
import SheetFormula.Proofs.Formula.Completeness
import Mathlib.Tactic.Ring

/-!
# How deep accepted trees are

The parser counts a level for each further link of a chain and gives all of them back where the
chain ends. The link that is counted first stands deepest in the tree, and the first operand, which
is not counted at all, stands deeper than all links. So a chain, a run of suffixes, a power or a
condition on top of a deep first operand makes the tree deeper than the count, and the tree of an
accepted formula can have many more levels than the limit on the count.

The greatest depth that a need allows is found here, and shown to be reached.

## Main definitions

* `SheetFormula.Formula.reach` — the greatest depth of the trees of conditionals of some need.
* `SheetFormula.Formula.Category.reach` — the same for all kinds of phrases.

## Main results

* `SheetFormula.Formula.depth_le_reach` — no tree is deeper than the need of its phrase allows.
* `SheetFormula.Formula.exists_spine_eq_reach` — every need has a phrase that is as deep as it
  allows, along its spine.
* `SheetFormula.Formula.exists_deepest_formula`, `depth_of_accepted_formulas` — how deep the trees
  of accepted formulas are, and when the limit on the count bounds them.
-/

set_option relaxedAutoImplicit false
set_option autoImplicit false

namespace SheetFormula.Formula

/-! ## The greatest depth -/

/-- The greatest number of levels of the tree of a conditional that needs some levels of nesting. -/
def reach (need : ℕ) : ℕ :=
  3 * need * need + 5 * need + 1

/-- With one level of nesting more, a conditional in parentheses can be followed by a full run of
suffixes, an exponent, full chains of all five kinds, and two branches. -/
lemma reach_succ (need : ℕ) : reach (need + 1) = reach need + 6 * (need + 1) + 2 := by
  unfold reach
  ring

/-- More need allows more depth. -/
lemma reach_mono {need need' : ℕ} (h : need ≤ need') : reach need ≤ reach need' := by
  induction need', h using Nat.le_induction with
  | base => exact le_rfl
  | succ need' _ ih =>
    rw [reach_succ]
    omega

/-- The greatest number of levels of the tree of a phrase that needs some levels of nesting. -/
def Category.reach : Category → ℕ → ℕ
  | _, 0 => 1
  | .primary, below + 1 => Formula.reach below
  | .access, below + 1 => Formula.reach below + (below + 1)
  | .power, below + 1 => Formula.reach below + (below + 1) + 1
  | .unary, below + 1 => Formula.reach below + (below + 1) + 1
  | .chain levels, below + 1 =>
    Formula.reach below + (below + 1) + 1 + levels.length * (below + 1)
  | .conditional, below + 1 => Formula.reach (below + 1)

/-- The greatest depth of a conditional is that of its need. -/
@[simp] lemma reach_conditional (need : ℕ) : Category.conditional.reach need = reach need := by
  cases need <;> rfl

/-- The greatest depth of a kind of phrases grows with the need. -/
lemma Category.reach_mono (category : Category) {need need' : ℕ} (h : need ≤ need') :
    category.reach need ≤ category.reach need' := by
  obtain _ | below := need'
  · obtain rfl : need = 0 := by omega
    exact le_rfl
  have hpos : 1 ≤ Formula.reach below := Nat.le_add_left _ _
  obtain _ | below' := need
  · cases category <;> simp only [Category.reach] <;> first | omega | exact Nat.le_add_left _ _
  · have hbelow : below' ≤ below := Nat.le_of_succ_le_succ h
    have hreach := Formula.reach_mono hbelow
    cases category with
    | chain levels =>
      have := Nat.mul_le_mul_left levels.length h
      simp only [Category.reach]
      omega
    | conditional => exact Formula.reach_mono h
    | _ => simp only [Category.reach]; omega

/-! ## No tree is deeper -/

/-- Steps that each put a level on top of what there is, and of parts of a bounded depth. -/
lemma depth_foldl_le {σ : Type} (attach : Expr → σ → Expr) (bound : ℕ) :
    ∀ (steps : List σ) (expr : Expr),
      (∀ step ∈ steps, ∀ left, (attach left step).depth ≤ max left.depth bound + 1) →
      (steps.foldl attach expr).depth ≤ max expr.depth bound + steps.length := by
  intro steps
  induction steps with
  | nil => intro expr _; simp
  | cons step rest ih =>
    intro expr hsteps
    have hstep := hsteps step (by simp) expr
    have hrest := ih (attach expr step) fun step' hmem => hsteps step' (List.mem_cons_of_mem _ hmem)
    simp only [List.foldl_cons, List.length_cons]
    omega

/-- Parts in turn need at least a level each. -/
lemma length_le_needInTurn (needs : List ℕ) : needs.length ≤ needInTurn needs := by
  induction needs with
  | nil => simp
  | cons need rest ih => simp only [List.length_cons, needInTurn_cons]; omega

/-- Each of some parts in turn stands at least one level deeper than the whole. -/
lemma lt_needInTurn {need : ℕ} {needs : List ℕ} (h : need ∈ needs) : need < needInTurn needs := by
  induction needs with
  | nil => cases h
  | cons first rest ih =>
    rw [needInTurn_cons]
    rcases List.mem_cons.mp h with rfl | hrest
    · omega
    · have := ih hrest; omega

/-- Each of some expressions stands one level deeper than the whole. -/
lemma lt_needOfAll {phrase : Phrase} {phrases : List Phrase} (h : phrase ∈ phrases) :
    phrase.need < needOfAll phrases := by
  induction phrases with
  | nil => cases h
  | cons first rest ih =>
    rw [needOfAll_cons]
    rcases List.mem_cons.mp h with rfl | hrest
    · omega
    · have := ih hrest; omega

/-- Trees that are all within a bound are so together. -/
lemma depthOfAll_le {exprs : List Expr} {bound : ℕ} (h : ∀ expr ∈ exprs, expr.depth ≤ bound) :
    depthOfAll exprs ≤ bound := by
  induction exprs with
  | nil => exact Nat.zero_le _
  | cons first rest ih =>
    rw [depthOfAll]
    exact max_le (h first (by simp)) (ih fun expr hexpr => h expr (List.mem_cons_of_mem _ hexpr))

/-- A run of suffixes puts one level each on top of a primary or a call. -/
lemma depth_suffixes_le {suffixes : List Suffix} (head : Expr) {bound : ℕ}
    (hkeys : ∀ key, Suffix.key key ∈ suffixes → key.value.depth ≤ bound) :
    (suffixes.foldl Suffix.attach head).depth ≤ max head.depth bound + suffixes.length := by
  refine depth_foldl_le Suffix.attach bound suffixes head fun suffix hmem left => ?_
  cases suffix with
  | key inside =>
    have := hkeys inside hmem
    simp only [Suffix.attach, Expr.depth]
    omega
  | property token name =>
    simp only [Suffix.attach, Expr.depth]
    omega

/-- A run of links puts one level each on top of the first operand. -/
lemma depth_links_le {links : List Link} (first : Expr) {bound : ℕ}
    (hlinks : ∀ link ∈ links, link.operand.value.depth ≤ bound) :
    (links.foldl Link.attach first).depth ≤ max first.depth bound + links.length := by
  refine depth_foldl_le Link.attach bound links first fun link hmem left => ?_
  have := hlinks link hmem
  simp only [Link.attach, Expr.depth]
  omega

/-! ## The bound for each rule -/

/-- The tree of a phrase is no deeper than the need of the phrase allows in its category. -/
def Phrase.Within (phrase : Phrase) (category : Category) : Prop :=
  phrase.value.depth ≤ category.reach phrase.need

/-- A greater need leaves room for the tree, too. -/
lemma Phrase.Within.le {phrase : Phrase} {category : Category} (h : phrase.Within category)
    {need : ℕ} (hneed : phrase.need ≤ need) : phrase.value.depth ≤ category.reach need :=
  le_trans h (category.reach_mono hneed)

/-- The trees of expressions inside a phrase are two levels further in than the phrase. -/
lemma Phrase.Within.le_reach {phrase : Phrase} (h : phrase.Within .conditional) {need : ℕ}
    (hneed : phrase.need ≤ need) : phrase.value.depth ≤ reach need :=
  reach_conditional need ▸ h.le hneed

/-- Chains of formulas have five levels. -/
lemma length_formulaLevels : formulaLevels.length = 5 := rfl

/-- The bound for a chain without branches. -/
lemma Phrase.Within.plain {condition : Phrase} (h : condition.Within (.chain formulaLevels)) :
    condition.Within .conditional := by
  refine le_trans h ?_
  cases condition.need with
  | zero => exact le_rfl
  | succ below => simp only [Category.reach, length_formulaLevels, reach_succ]; omega

/-- The bound for a condition with branches: the branches are as deep as a level less allows, and
the condition leaves one level. -/
lemma Phrase.Within.choice {condition whenTrue whenFalse : Phrase}
    (hcondition : condition.Within (.chain formulaLevels))
    (hwhenTrue : whenTrue.Within .conditional) (hwhenFalse : whenFalse.Within .conditional)
    (tokens : List Token) :
    Phrase.Within
      { tokens := tokens
        value := .choice condition.value whenTrue.value whenFalse.value
        need := max condition.need (max whenTrue.need whenFalse.need + 1) } .conditional := by
  obtain ⟨below, hbelow⟩ :
      ∃ below, max condition.need (max whenTrue.need whenFalse.need + 1) = below + 1 :=
    Nat.exists_eq_add_one_of_ne_zero (by omega)
  have hleft := hcondition.le (by omega : _ ≤ below + 1)
  have hmiddle := hwhenTrue.le_reach (by omega : _ ≤ below)
  have hright := hwhenFalse.le_reach (by omega : _ ≤ below)
  simp only [Category.reach, length_formulaLevels] at hleft
  simp only [Phrase.Within, hbelow, Expr.depth, reach_conditional, reach_succ]
  omega

/-- The bound for a chain: links put one level each on top, and there are no more of them than
levels of need. -/
lemma Phrase.Within.chain {level : Level} {tighter : List Level} {first : Phrase}
    {links : List Link} (hfirst : first.Within (.chain tighter))
    (hlinks : ∀ link ∈ links, link.operand.Within (.chain tighter)) (tokens : List Token) :
    Phrase.Within
      { tokens := tokens
        value := links.foldl Link.attach first.value
        need := max first.need (needInTurn (links.map fun link => link.operand.need)) }
      (.chain (level :: tighter)) := by
  have hlength := length_le_needInTurn (links.map fun link => link.operand.need)
  rw [List.length_map] at hlength
  unfold Phrase.Within
  dsimp only
  generalize hneed : max first.need (needInTurn (links.map fun link => link.operand.need)) = need
  have hhead := hfirst.le (by omega : _ ≤ need)
  have hoperands : ∀ link ∈ links, link.operand.value.depth ≤ (Category.chain tighter).reach need :=
    fun link hlink => by
      have hlt := lt_needInTurn (List.mem_map_of_mem (f := fun link => link.operand.need) hlink)
      exact (hlinks link hlink).le (by omega)
  have hdepth := depth_links_le first.value hoperands
  cases need with
  | zero => simp only [Category.reach] at hhead hdepth ⊢; omega
  | succ below =>
    simp only [Category.reach, List.length_cons, Nat.succ_mul] at hhead hdepth ⊢
    omega

/-- The bound for a unary with an operator before it. -/
lemma Phrase.Within.signed {operand : Phrase} (h : operand.Within .unary) (op : Operator)
    (tokens : List Token) :
    Phrase.Within
      { tokens := tokens, value := .unary op operand.value, need := operand.need + 1 } .unary := by
  unfold Phrase.Within at h ⊢
  simp only [Expr.depth]
  cases hneed : operand.need with
  | zero => simp only [hneed, Category.reach] at h ⊢; omega
  | succ below => simp only [hneed, Category.reach, reach_succ] at h ⊢; omega

/-- The bound for a base with an exponent, which is read a level deeper. -/
lemma Phrase.Within.raised {base exponent : Phrase} (hbase : base.Within .access)
    (hexponent : exponent.Within .unary) (op : Operator) (tokens : List Token) :
    Phrase.Within
      { tokens := tokens
        value := .binary op base.value exponent.value
        need := max base.need (exponent.need + 1) } .power := by
  obtain ⟨below, hbelow⟩ : ∃ below, max base.need (exponent.need + 1) = below + 1 :=
    Nat.exists_eq_add_one_of_ne_zero (by omega)
  have hleft := hbase.le (by omega : _ ≤ below + 1)
  have hright := hexponent.le (by omega : _ ≤ below)
  simp only [Phrase.Within, hbelow, Expr.depth, Category.reach] at hleft ⊢
  cases below with
  | zero => simp only [Category.reach] at hright; omega
  | succ below' => simp only [Category.reach, reach_succ] at hright hleft ⊢; omega

/-- The keys in a run of suffixes are two levels further in than the run. -/
lemma depth_key_le {suffixes : List Suffix}
    (hkeys : ∀ key, Suffix.key key ∈ suffixes → key.Within .conditional) {need : ℕ}
    (hneed : needInTurn (suffixes.map Suffix.need) ≤ need + 1) {key : Phrase}
    (hmem : Suffix.key key ∈ suffixes) : key.value.depth ≤ reach need := by
  have hlt : key.need + 1 < needInTurn (suffixes.map Suffix.need) :=
    lt_needInTurn (List.mem_map_of_mem (f := Suffix.need) hmem)
  exact (hkeys key hmem).le_reach (by omega)

/-- The bound for a primary with suffixes. -/
lemma Phrase.Within.suffixed {head : Phrase} {suffixes : List Suffix}
    (hhead : head.Within .primary)
    (hkeys : ∀ key, Suffix.key key ∈ suffixes → key.Within .conditional) (tokens : List Token) :
    Phrase.Within
      { tokens := tokens
        value := suffixes.foldl Suffix.attach head.value
        need := max head.need (needInTurn (suffixes.map Suffix.need)) } .access := by
  have hlength := length_le_needInTurn (suffixes.map Suffix.need)
  rw [List.length_map] at hlength
  unfold Phrase.Within
  dsimp only
  generalize hneed : max head.need (needInTurn (suffixes.map Suffix.need)) = need
  have hfirst := hhead.le (by omega : _ ≤ need)
  cases need with
  | zero =>
    obtain rfl : suffixes = [] := List.length_eq_zero_iff.mp (by omega)
    exact hfirst
  | succ below =>
    have hdepth := depth_suffixes_le head.value fun key hkey =>
      depth_key_le hkeys (by omega : _ ≤ below + 1) hkey
    simp only [Category.reach] at hfirst hdepth ⊢
    omega

/-- The bound for a call with suffixes. The arguments take the first of the levels in turn. -/
lemma Phrase.Within.called {arguments : List Phrase} {suffixes : List Suffix}
    (harguments : ∀ argument ∈ arguments, argument.Within .conditional)
    (hkeys : ∀ key, Suffix.key key ∈ suffixes → key.Within .conditional) (name : String)
    (tokens : List Token) :
    Phrase.Within
      { tokens := tokens
        value := suffixes.foldl Suffix.attach (.call name (arguments.map Phrase.value))
        need := needInTurn (needOfAll arguments :: suffixes.map Suffix.need) } .access := by
  have hlength := length_le_needInTurn (suffixes.map Suffix.need)
  rw [List.length_map] at hlength
  unfold Phrase.Within
  simp only [needInTurn_cons, Category.reach]
  generalize hneed : max (needOfAll arguments) (needInTurn (suffixes.map Suffix.need)) = below
  have hcall : depthOfAll (arguments.map Phrase.value) + 1 ≤ reach below := by
    cases below with
    | zero =>
      obtain rfl : arguments = [] := by
        cases arguments with
        | nil => rfl
        | cons first rest => rw [needOfAll_cons] at hneed; omega
      exact le_rfl
    | succ inside =>
      have hall : depthOfAll (arguments.map Phrase.value) ≤ reach inside :=
        depthOfAll_le fun expr hexpr => by
          obtain ⟨argument, hmem, rfl⟩ := List.mem_map.mp hexpr
          have hlt := lt_needOfAll hmem
          exact (harguments argument hmem).le_reach (by omega)
      rw [reach_succ]
      omega
  have hdepth := depth_suffixes_le (.call name (arguments.map Phrase.value)) fun key hkey =>
    depth_key_le hkeys (by omega : _ ≤ below + 1) hkey
  rw [Expr.depth] at hdepth
  omega

/-- Constants are leaves. -/
lemma depth_constant {name : String} {value : Expr} (h : (name, value) ∈ constants) :
    value.depth = 1 := by
  simp only [constants, List.mem_cons, Prod.mk.injEq, List.not_mem_nil, or_false] at h
  rcases h with ⟨-, rfl⟩ | ⟨-, rfl⟩ | ⟨-, rfl⟩ | ⟨-, rfl⟩ | ⟨-, rfl⟩ | ⟨-, rfl⟩ <;> rfl

/-- **No tree is deeper than the need of its phrase allows.**

**Proof sketch.** Induction on the derivation, with the bound of each rule. A phrase of need zero is
a leaf. Otherwise each of its parts is within the bound for its own category and for the need of
the whole, and links and suffixes put one level each on top. -/
theorem depth_le_reach {category : Category} {phrase : Phrase} (h : Derives category phrase) :
    phrase.Within category := by
  induction h with
  | plain _ ih => exact ih.plain
  | choice _ _ _ ihcondition ihwhenTrue ihwhenFalse =>
    exact ihcondition.choice ihwhenTrue ihwhenFalse _
  | @operand operand _ ih =>
    refine le_trans ih ?_
    cases operand.need <;> simp [Category.reach]
  | chain _ _ _ ihfirst ihlinks => exact ihfirst.chain ihlinks _
  | signed _ _ ih => exact ih.signed _ _
  | @unsigned phrase _ ih =>
    refine le_trans ih ?_
    cases phrase.need <;> exact le_rfl
  | @unraised phrase _ ih =>
    refine le_trans ih ?_
    cases phrase.need <;> simp [Category.reach]
  | raised _ _ ihbase ihexponent => exact ihbase.raised ihexponent _ _
  | suffixed _ _ _ ihhead ihkeys => exact ihhead.suffixed ihkeys _
  | called _ _ _ _ iharguments ihkeys => exact Phrase.Within.called iharguments ihkeys _ _
  | number | text | reference => exact le_rfl
  | constant hconstant => exact (depth_constant hconstant).le
  | group _ ih => exact ih.le_reach le_rfl

/-! ## The bound is reached -/

/-- Parts in turn that need no nesting themselves need a level each. -/
lemma needInTurn_replicate_zero (count : ℕ) : needInTurn (List.replicate count 0) = count := by
  induction count with
  | zero => rfl
  | succ count ih => rw [List.replicate_succ, needInTurn_cons, ih, Nat.zero_max]

/-- Steps that each make the spine one level longer. -/
lemma spine_foldl {σ : Type} (attach : Expr → σ → Expr)
    (hattach : ∀ left step, (attach left step).spine = left.spine + 1) (steps : List σ) :
    ∀ expr : Expr, (steps.foldl attach expr).spine = expr.spine + steps.length := by
  induction steps with
  | nil => intro expr; rfl
  | cons step rest ih =>
    intro expr
    rw [List.foldl_cons, ih, hattach, List.length_cons]
    omega

/-- Each link makes the spine one level longer. -/
lemma spine_links (links : List Link) (first : Expr) :
    (links.foldl Link.attach first).spine = first.spine + links.length :=
  spine_foldl Link.attach (fun _ _ => rfl) links first

/-- Each suffix makes the spine one level longer. -/
lemma spine_suffixes (suffixes : List Suffix) (head : Expr) :
    (suffixes.foldl Suffix.attach head).spine = head.spine + suffixes.length :=
  spine_foldl Suffix.attach (fun _ suffix => by cases suffix <;> rfl) suffixes head

/-- A number is a phrase of every kind, and needs no nesting. -/
lemma exists_leaf (levels : List Level) :
    ∃ phrase, Derives (.chain levels) phrase ∧ phrase.need = 0 ∧ phrase.value.spine = 1 := by
  have hbase := @Derives.suffixed _ [] (.number 1) (by simp) (by simp)
  exact ⟨_, Derives.chain_of_unary (.unsigned (.unraised hbase)) levels, rfl, rfl⟩

/-- A unary grows into a chain of some levels that needs no more nesting, and has as many links on
each level as the unary needs levels of nesting. -/
lemma exists_climb {operand : Phrase} (hoperand : Derives .unary operand) {levels : List Level}
    (hlevels : ∀ level ∈ levels, level ≠ []) :
    ∃ phrase, Derives (.chain levels) phrase ∧ phrase.need = operand.need ∧
      phrase.value.spine = operand.value.spine + levels.length * operand.need := by
  induction levels with
  | nil => exact ⟨operand, .operand hoperand, rfl, by simp⟩
  | cons level tighter ih =>
    obtain ⟨first, hfirst, hneed, hspine⟩ :=
      ih fun level' hmem => hlevels level' (List.mem_cons_of_mem _ hmem)
    obtain ⟨leaf, hleaf, hzero, -⟩ := exists_leaf tighter
    obtain ⟨op, hop⟩ := List.exists_mem_of_ne_nil level (hlevels level (by simp))
    have hlink : ∀ link ∈ List.replicate operand.need (Link.mk op leaf), link = ⟨op, leaf⟩ :=
      fun _ hmem => List.eq_of_mem_replicate hmem
    have hops : ∀ link ∈ List.replicate operand.need (Link.mk op leaf), link.op ∈ level :=
      fun link hmem => hlink link hmem ▸ hop
    refine ⟨_, .chain hfirst hops fun link hmem => hlink link hmem ▸ hleaf, ?_, ?_⟩
    · dsimp only
      rw [List.map_replicate, hzero, needInTurn_replicate_zero, hneed, Nat.max_self]
    · dsimp only
      rw [spine_links, hspine, List.length_replicate, List.length_cons, Nat.succ_mul]
      omega

/-- All levels of formulas have operators. -/
lemma formulaLevels_ne_nil : ∀ level ∈ formulaLevels, level ≠ [] := by
  simp [formulaLevels]

/-- A conditional in parentheses, with a full run of suffixes and an exponent. -/
lemma exists_unary_spine {inner : Phrase} (hinner : Derives .conditional inner) :
    ∃ phrase, Derives .unary phrase ∧ phrase.need = inner.need + 1 ∧
      phrase.value.spine = inner.value.spine + (inner.need + 1) + 1 := by
  have hsuffix : ∀ suffix ∈ List.replicate (inner.need + 1) (Suffix.property (.name "x") "x"),
      suffix = .property (.name "x") "x" := fun _ hmem => List.eq_of_mem_replicate hmem
  have hbase := Derives.suffixed (.group hinner)
    (fun key hmem => by cases hsuffix _ hmem)
    (fun token name hmem => by cases hsuffix _ hmem; exact .name "x")
  have hexponent := Derives.unsigned
    (.unraised (@Derives.suffixed _ [] (.number 1) (by simp) (by simp)))
  refine ⟨_, .unsigned (.raised hbase hexponent), ?_, ?_⟩
  · dsimp only
    rw [List.map_replicate, Suffix.need, needInTurn_replicate_zero]
    simp
  · dsimp only
    rw [Expr.spine, spine_suffixes, List.length_replicate]

/-- **Every need has a phrase that is as deep as it allows, along its spine.**

**Proof sketch.** Induction on the need. The deepest phrase of a level less goes into parentheses.
Behind them come as many suffixes as there are levels, an exponent, as many links as there are
levels on each level of chains, and two branches. -/
theorem exists_spine_eq_reach (need : ℕ) :
    ∃ phrase, Derives .conditional phrase ∧ phrase.need = need ∧
      phrase.value.spine = reach need := by
  obtain ⟨leaf, hleaf, hleafNeed, hleafSpine⟩ := exists_leaf formulaLevels
  induction need with
  | zero => exact ⟨leaf, .plain hleaf, hleafNeed, hleafSpine⟩
  | succ need ih =>
    obtain ⟨inner, hinner, rfl, hspine⟩ := ih
    obtain ⟨operand, hoperand, hneed, hgrown⟩ := exists_unary_spine hinner
    obtain ⟨condition, hcondition, hsame, hclimbed⟩ :=
      exists_climb hoperand formulaLevels_ne_nil
    refine ⟨_, .choice hcondition (.plain hleaf) (.plain hleaf), ?_, ?_⟩
    · dsimp only
      omega
    · rw [Expr.spine, hclimbed, hgrown, hspine, hneed, length_formulaLevels, reach_succ]
      omega

/-! ## The trees of accepted formulas -/

/-- The greatest depth that the limit on the count allows. -/
lemma reach_below_limit : reach (maxDepth - 1) = 49023 := rfl

/-- The tree of an accepted formula is no deeper than the limit on the count allows. -/
lemma depth_le_of_parse {tokens : List Token} {expr : Expr} (h : parse tokens = .ok expr) :
    expr.depth ≤ 49023 := by
  obtain ⟨need, hneed, hderives⟩ := derives_of_parse h
  have hwithin : expr.depth ≤ Category.conditional.reach need := depth_le_reach hderives
  rw [reach_conditional] at hwithin
  rw [← reach_below_limit]
  exact le_trans hwithin (reach_mono (by omega))

/-- **Some accepted formula is that deep**, along its spine, so that evaluation gives up on it with
any lower limit. -/
theorem exists_deepest_formula :
    ∃ tokens expr, parse tokens = .ok expr ∧ expr.depth = 49023 ∧
      ∀ context scope, ∀ limit < 49023,
        evaluateWithin context scope limit expr = ExceptT.mk none := by
  obtain ⟨phrase, hderives, hneed, hspine⟩ := exists_spine_eq_reach (maxDepth - 1)
  have hparse := parse_of_derives (by rw [hneed]; decide) hderives
  rw [reach_below_limit] at hspine
  have hupper := depth_le_of_parse hparse
  have hlower := phrase.value.spine_le_depth
  refine ⟨_, _, hparse, by omega, fun context scope limit hlimit => ?_⟩
  exact evaluateWithin_of_lt_spine (by omega)

/-- **How deep accepted trees are.** The limit on the count bounds the levels of an accepted tree,
and the recursion of its evaluation, exactly for those tokens to which the grammar gives no deeper
tree with a need below the limit. For all tokens, an accepted tree has at most 49023 levels, and
evaluation recurses at most that deep. -/
theorem depth_of_accepted_formulas (tokens : List Token) :
    ((∀ expr, parse tokens = .ok expr → expr.depth ≤ maxDepth ∧ ∀ context scope,
        evaluateWithin context scope maxDepth expr = .ofResult (evaluate context scope expr)) ↔
      ∀ expr need, Derives .conditional ⟨tokens, expr, need⟩ → need < maxDepth →
        expr.depth ≤ maxDepth) ∧
    ∀ expr, parse tokens = .ok expr → expr.depth ≤ 49023 ∧ ∀ context scope,
      evaluateWithin context scope 49023 expr = .ofResult (evaluate context scope expr) := by
  refine ⟨⟨fun hbound expr need hderives hneed => ?_, fun hbound expr hparse => ?_⟩,
    fun expr hparse => ?_⟩
  · exact (hbound expr (parse_of_derives hneed hderives)).1
  · obtain ⟨need, hneed, hderives⟩ := derives_of_parse hparse
    have hdepth := hbound expr need hderives hneed
    exact ⟨hdepth, fun context scope => evaluateWithin_of_depth_le hdepth⟩
  · have hdepth := depth_le_of_parse hparse
    exact ⟨hdepth, fun context scope => evaluateWithin_of_depth_le hdepth⟩

/-- A sum after 127 signs is accepted, and has one level more than the limit on the count. -/
theorem depth_of_signs_before_sum :
    (parse (List.replicate 127 (.operator .minus) ++
      [.number 1, .operator .plus, .number 1])).toOption.map Expr.depth = some (maxDepth + 1) := by
  decide +kernel

end SheetFormula.Formula

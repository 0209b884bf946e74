import SheetFormula.Proofs.Formula.Counting.Rules
import Mathlib.Data.Nat.Notation
import Mathlib.Tactic.Common

/-!
# The calls of a reading are in order

Whatever tokens are read, and however the reading ends, each of its calls that returns a tree is
back at the depth at which it was entered, within the limit; it has taken at least one token and no
more than there are; and its tree hangs on nothing but the tokens that it has taken and the one
behind them. So callers may give back the levels of a whole loop at once, and look back at the token
they have taken: no count ever falls below zero.

That calls are in order is read off the rules. A call reads what the rule of its routine reads, and
what a rule reads is decided by the tokens that it takes and the one behind them, together with the
levels left.

## Main definitions

* `SheetFormula.Formula.Counting.Call.Orderly` — a call is in order.

## Main results

* `SheetFormula.Formula.Counting.outcome_run_of_rule` — what a call does wherever the tokens that it
  has read stand again.
* `SheetFormula.Formula.Counting.calls_in_order` — the counting parser does what the parser does,
  never counts below zero, and all of its calls are in order.
-/

set_option relaxedAutoImplicit false
set_option autoImplicit false

namespace SheetFormula.Formula.Counting

/-! ## Calls in order -/

/-- A call of a routine is in order: it returns at the depth at which it was entered, which is
within the limit; it takes at least one token, and no more than there are; and its tree hangs on the
tokens that it takes and the one behind them. Wherever the routine is called in front of these
tokens, up to the one behind them, it returns the same tree behind the same tokens, unless it is
called deeper down and stops because there are too few levels left. -/
structure Call.Orderly (tokens : Tokens) (call : Call) : Prop where
  depth_eq : call.returned.depth = call.entered.depth
  depth_le : call.entered.depth ≤ 128
  position_lt : call.entered.position < call.returned.position
  position_le : call.returned.position ≤ tokens.length
  tree_eq : ∀ (other : Tokens) (place : Place) (calls : List Call), place.depth ≤ 128 →
    (∀ k ≤ call.returned.position - call.entered.position,
      other[place.position + k]? = tokens[call.entered.position + k]?) →
    ∃ result final, (other.run call.routine).outcome ⟨place, calls⟩ = some (result, final) ∧
      (result = .ok call.tree ∧
          final.place.position =
            place.position + (call.returned.position - call.entered.position) ∧
          final.place.depth = place.depth ∨
        call.entered.depth < place.depth ∧
          ∃ position, result = .error (.fault ⟨.tooDeep, position⟩))

/-- What the rule of a routine reads hangs on the tokens that it takes and the one behind them. -/
lemma answers_of_rule {routine : Routine} (hproper : routine.Proper) {limit : ℕ}
    {inner : List Token} {parsed : Parsed Expr inner} (h : routine.rule limit inner = .ok parsed) :
    ∃ front need, inner = front ++ parsed.rest ∧ need ≤ limit ∧
      ∀ (limit' : ℕ) (rest' : List Token), rest'.head? = parsed.rest.head? →
        Answers (routine.rule limit' (front ++ rest')) (need ≤ limit') parsed.value rest' := by
  cases routine with
  | phrase category => exact answers_of_ruleOf_eq_ok hproper h
  | expression =>
    cases limit with
    | zero => cases h
    | succ below =>
      have hinside : ruleOf .conditional below inner = .ok parsed := by
        have hgrammar : (grammar below).conditional inner = .ok parsed := h
        rwa [grammar_eq] at hgrammar
      obtain ⟨front, need, hfront, hneed, hanswers⟩ := answers_of_ruleOf_eq_ok
        (show Category.conditional.Proper from trivial) hinside
      refine ⟨front, need + 1, hfront, Nat.succ_le_succ hneed, fun limit' rest' hhead => ?_⟩
      exact answers_deeper fun below' => hanswers below' rest' hhead

/-- Tokens that agree with others on some window begin with the tokens of this window, and go on
with the same token as the others. -/
lemma exists_append_of_window {front rest other : List Token}
    (h : ∀ k ≤ front.length, other[k]? = (front ++ rest)[k]?) :
    ∃ rest', other = front ++ rest' ∧ rest'.head? = rest.head? := by
  refine ⟨other.drop front.length, ?_, ?_⟩
  · refine List.ext_getElem? fun k => ?_
    rcases Nat.lt_or_ge k front.length with hk | hk
    · rw [h k (Nat.le_of_lt hk), List.getElem?_append_left hk, List.getElem?_append_left hk]
    · rw [List.getElem?_append_right hk, List.getElem?_drop, Nat.add_sub_cancel' hk]
  · rw [List.head?_drop, h _ (Nat.le_refl _), List.getElem?_append_right (Nat.le_refl _),
      Nat.sub_self, List.head?_eq_getElem?]

/-- A call that reads what a rule has read returns the same tree behind the same tokens, or stops
because too few levels are left. -/
lemma outcome_run_of_rule {routine : Routine} (hproper : routine.Proper) {limit : ℕ}
    {inner rest : List Token} {value : Expr} {shorter : rest.length < inner.length}
    (h : routine.rule limit inner = .ok ⟨value, rest, shorter⟩) :
    ∃ front need, inner = front ++ rest ∧ need ≤ limit ∧
      ∀ (other : Tokens) (rest' : List Token) (depth : ℕ) (calls : List Call),
        front ++ rest' <:+ other → rest'.head? = rest.head? → depth ≤ maxDepth →
        ∃ result final,
          (other.run routine).outcome ⟨standing other (front ++ rest') depth, calls⟩ =
              some (result, final) ∧
            (result = .ok value ∧ final.place = standing other rest' depth ∨
              maxDepth < depth + need ∧
                ∃ position, result = .error (.fault ⟨.tooDeep, position⟩)) := by
  obtain ⟨front, need, hfront, hneed, hanswers⟩ := answers_of_rule hproper h
  refine ⟨front, need, hfront, hneed, fun other rest' depth calls hsuffix hhead hdepth => ?_⟩
  obtain ⟨hread, hdeep⟩ := hanswers (maxDepth - depth) rest' hhead
  have hfollows := (simulates other (maxDepth - depth)).run routine (front ++ rest') depth hproper
    hsuffix (Nat.add_sub_cancel' hdepth)
  by_cases hwithin : need ≤ maxDepth - depth
  · obtain ⟨shorter', hok⟩ := hread hwithin
    obtain ⟨more, -, hrun⟩ := (hfollows.ok _ hok).2 calls
    exact ⟨_, _, hrun, .inl ⟨rfl, rfl⟩⟩
  · obtain ⟨left, herror⟩ := hdeep hwithin
    obtain ⟨more, place, -, hrun⟩ := hfollows.error _ herror calls
    exact ⟨_, _, hrun, .inr ⟨by omega, _, rfl⟩⟩

/-- Calls that read what rules read are in order. -/
lemma Call.IsReading.orderly {tokens : Tokens} {call : Call} (h : Call.IsReading tokens call) :
    call.Orderly tokens := by
  obtain @⟨routine, inner, rest, value, shorter, depth, limit, hproper, hinner, hrest, hdepth,
    hrule⟩ := h
  obtain ⟨front, need, rfl, hneed, hrun⟩ := outcome_run_of_rule hproper hrule
  obtain ⟨before, rfl⟩ := hinner
  have hlimit : maxDepth = 128 := rfl
  have hentered : standing (before ++ (front ++ rest)) (front ++ rest) depth =
      ⟨before.length, depth⟩ := by simp [standing]
  have hreturned : standing (before ++ (front ++ rest)) rest depth =
      ⟨before.length + front.length, depth⟩ := by simp [standing]; omega
  have hfront : 0 < front.length := by simpa using shorter
  rw [hentered, hreturned]
  refine ⟨rfl, ?_, ?_, ?_, fun other place calls hplace hwindow => ?_⟩
  · show depth ≤ 128
    omega
  · show before.length < before.length + front.length
    omega
  · show before.length + front.length ≤ (before ++ (front ++ rest)).length
    simp
  -- the window is the tokens that were taken and the one behind them
  have htaken : before.length + front.length - before.length = front.length := by omega
  dsimp only at hwindow ⊢
  rw [htaken] at hwindow ⊢
  obtain ⟨rest', hother, hhead⟩ : ∃ rest', other.drop place.position = front ++ rest' ∧
      rest'.head? = rest.head? := by
    refine exists_append_of_window fun k hk => ?_
    rw [List.getElem?_drop, hwindow k hk, List.getElem?_append_right (by omega)]
    congr 1
    omega
  have hlength : other.length - place.position = front.length + rest'.length := by
    rw [← List.length_drop, hother, List.length_append]
  obtain ⟨result, final, hresult, hcases⟩ := hrun other rest' place.depth calls
    (hother ▸ List.drop_suffix _ _) hhead hplace
  have hbegin : standing other (front ++ rest') place.depth = place := by
    rw [standing, List.length_append, ← hlength]
    congr 1
    omega
  have hend : standing other rest' place.depth =
      ⟨place.position + front.length, place.depth⟩ := by
    rw [standing]
    congr 1
    omega
  rw [hbegin] at hresult
  rw [hend] at hcases
  refine ⟨result, final, hresult, hcases.imp (fun hok => ⟨hok.1, ?_, ?_⟩) fun hdeep =>
    ⟨by omega, hdeep.2⟩⟩
  · rw [hok.2]
  · rw [hok.2]

/-! ## Whole readings -/

/-- What has been read, if it is all of the tokens. -/
def whole {tokens : Tokens} (parsed : Parsed Expr tokens) : Except Stop (Parsed Expr tokens) :=
  match parsed.rest with
  | [] => .ok parsed
  | token :: rest => .error ⟨.trailing token, (token :: rest).length⟩

variable {tokens : Tokens}

/-- The expression of some tokens is read by the rule for expressions, up to their end. -/
lemma parse_eq_whole (hne : tokens ≠ []) :
    Formula.parse tokens =
      ((Formula.expression (nestedAt maxDepth) tokens >>= whole).map Parsed.value).mapError
        fun stop => ⟨stop.fault, tokens.length - stop.left⟩ := by
  have hrule : (grammar maxDepth).expression = Formula.expression (nestedAt maxDepth) := by
    rw [grammar_eq]
    rfl
  unfold Formula.parse parseAll
  split
  · exact absurd rfl hne
  · rw [hrule]
    cases Formula.expression (nestedAt maxDepth) tokens with
    | error stop => rfl
    | ok parsed =>
      obtain ⟨value, rest, shorter⟩ := parsed
      cases rest <;> rfl

/-- The reading of all of some tokens does what the rule for expressions does, up to their end. -/
lemma parse_follows (hne : tokens ≠ []) :
    Follows tokens tokens.parse 0 tokens
      (Formula.expression (nestedAt maxDepth) tokens >>= whole) 0 := by
  have hrun := (simulates tokens maxDepth).run .expression tokens 0 trivial List.suffix_rfl
    (Nat.zero_add _)
  obtain ⟨token, more, rfl⟩ := List.exists_cons_of_ne_nil hne
  refine hrun.bind fun parsed _ hsuffix => ?_
  refine (passes_peek hsuffix).follows List.suffix_rfl ?_
  obtain ⟨value, rest, shorter⟩ := parsed
  cases rest with
  | nil => exact follows_pure rfl rfl
  | cons token more => exact (fails_fail _ _).follows

/-- The reading of all of some tokens ends with the tree or the fault that the parser gives to them,
and all of its calls read what rules read. -/
lemma exists_outcome_parse (tokens : Tokens) :
    ∃ final, tokens.parse.outcome .initial =
        some ((Formula.parse tokens).mapError .fault, final) ∧
      ∀ call ∈ final.calls, Call.IsReading tokens call := by
  by_cases hne : tokens = []
  · subst hne
    exact ⟨.initial, rfl, by simp [State.initial]⟩
  have hread := parse_follows hne
  have hstart : (⟨standing tokens tokens 0, []⟩ : State) = .initial := by
    simp [standing, State.initial]
  rw [parse_eq_whole hne]
  cases hresult : Formula.expression (nestedAt maxDepth) tokens >>= whole with
  | error stop =>
    obtain ⟨more, place, hmore, hrun⟩ := hread.error stop hresult []
    rw [hstart] at hrun
    exact ⟨_, hrun, by simpa using hmore⟩
  | ok parsed =>
    obtain ⟨more, hmore, hrun⟩ := (hread.ok parsed hresult).2 []
    rw [hstart] at hrun
    exact ⟨_, hrun, by simpa using hmore⟩

/-- The tree of a whole formula is that of a call of the routine for expressions, from the first
token to the end. -/
lemma call_mem_calls_of_parse {expr : Expr} {final : State} (hne : tokens ≠ [])
    (hend : tokens.parse.outcome .initial = some (.ok expr, final))
    (hcalls : ∀ call ∈ final.calls, call.Orderly tokens) :
    ⟨.expression, ⟨0, 0⟩, ⟨tokens.length, 0⟩, expr⟩ ∈ final.calls := by
  obtain ⟨token, more, rfl⟩ := List.exists_cons_of_ne_nil hne
  obtain ⟨tree, middle, hrun, hend⟩ := of_outcome_bind hend
  obtain ⟨next, behind, hpeek, hend⟩ := of_outcome_bind hend
  cases hpeek
  have hcall := call_mem_calls_of_run hrun
  split at hend
  · cases hend
  · next hnone =>
    cases hend
    obtain ⟨hdepth, -, -, hposition, -⟩ := hcalls _ hcall
    have hlength := List.getElem?_eq_none_iff.mp hnone
    have hplace : final.place = ⟨(token :: more).length, 0⟩ := by
      obtain ⟨⟨position, depth⟩, calls⟩ := final
      exact congrArg₂ Place.mk (Nat.le_antisymm hposition hlength) hdepth
    rwa [hplace] at hcall

/-- **All calls of a reading are in order.** The counting parser ends on all tokens as the parser
does, with the same tree, or the same fault at the same place. No count ever has to fall below zero,
a formula is read by a call that takes all of its tokens, and each call that returns a tree is in
order, also where the reading fails after it. -/
theorem calls_in_order (tokens : Tokens) :
    ∃ final, tokens.parse.outcome .initial =
        some ((Formula.parse tokens).mapError .fault, final) ∧
      (∀ final', tokens.parse.outcome .initial ≠ some (.error .underflow, final')) ∧
      (∀ expr, Formula.parse tokens = .ok expr →
        ⟨.expression, ⟨0, 0⟩, ⟨tokens.length, 0⟩, expr⟩ ∈ final.calls) ∧
      ∀ call ∈ final.calls, call.Orderly tokens := by
  obtain ⟨final, hend, hcalls⟩ := exists_outcome_parse tokens
  have horderly : ∀ call ∈ final.calls, call.Orderly tokens :=
    fun call hcall => (hcalls call hcall).orderly
  refine ⟨final, hend, fun final' hunderflow => ?_, fun expr hexpr => ?_, horderly⟩
  · rw [hend] at hunderflow
    cases h : Formula.parse tokens <;> simp [h, Except.mapError] at hunderflow
  · rw [hexpr] at hend
    refine call_mem_calls_of_parse ?_ hend horderly
    rintro rfl
    cases hexpr

/-- A sum is read by a call that takes its three tokens. At the same depth behind a sign, the same
call reads the same sum. -/
theorem calls_in_order_of_sum :
    ∃ final, (Tokens.parse [.number 2, .operator .plus, .number 3]).outcome .initial =
        some (.ok (.binary .plus (.number 2) (.number 3)), final) ∧
      ⟨.expression, ⟨0, 0⟩, ⟨3, 0⟩, .binary .plus (.number 2) (.number 3)⟩ ∈ final.calls ∧
      ∃ final', (Tokens.run [.operator .minus, .number 2, .operator .plus, .number 3]
          .expression).outcome ⟨⟨1, 0⟩, []⟩ =
            some (.ok (.binary .plus (.number 2) (.number 3)), final') ∧
        final'.place.position = 4 ∧ final'.place.depth = 0 := by
  have hparse : Formula.parse [.number 2, .operator .plus, .number 3] =
      .ok (.binary .plus (.number 2) (.number 3)) := rfl
  obtain ⟨final, hend, -, hwhole, horderly⟩ :=
    calls_in_order [.number 2, .operator .plus, .number 3]
  have hcall := hwhole _ hparse
  rw [hparse] at hend
  have hwindow : ∀ k ≤ 3, [Token.operator .minus, .number 2, .operator .plus, .number 3][1 + k]? =
      [Token.number 2, .operator .plus, .number 3][0 + k]? := by
    intro k _
    rw [Nat.add_comm, Nat.zero_add]
    rfl
  obtain ⟨result, final', hrun, ⟨rfl, hposition, hdepth⟩ | ⟨hless, -⟩⟩ :=
    (horderly _ hcall).tree_eq [.operator .minus, .number 2, .operator .plus, .number 3] ⟨1, 0⟩ []
      (Nat.zero_le _) hwindow
  · exact ⟨final, hend, hcall, final', hrun, hposition, hdepth⟩
  · exact absurd hless (Nat.lt_irrefl 0)

end SheetFormula.Formula.Counting

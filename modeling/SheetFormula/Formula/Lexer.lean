import SheetFormula.Formula.Token
import SheetFormula.Number.Numeral
import SheetFormula.Text.Blank
import SheetFormula.Text.Letter

/-!
# From text to tokens

White space separates tokens and is otherwise skipped. A token begins at the first character that
is not blank, and that character, with at most one after it, decides which kind of token is read.

* **Text literals** stand between two quotes of one kind. A backslash takes the next character
  as it is, except for `\n`, `\t` and `\r`; a doubled quote is one quote.
* **Numbers** are digits with an optional point and exponent. An exponent is read only if it has
  a digit, so `2e` is the number `2` and the name `e`.
* **Names** begin with a letter, `_` or `$` and go on with these and with numbers of all scripts;
  the words `and`, `or` and `not` are operators.

## Main definitions

* `SheetFormula.Formula.LexFault`, `LexFailure` — why and where a text is not a sequence of tokens.
* `SheetFormula.Formula.readText?`, `readNumber`, `readName` — the readers of the long tokens.
* `SheetFormula.Formula.readToken` — one token at the head of a text.
* `SheetFormula.Formula.tokenize` — the tokens of a text.

## Main results

* `SheetFormula.Formula.readToken_length` — every token takes up at least one character.
-/

set_option relaxedAutoImplicit false
set_option autoImplicit false

namespace SheetFormula.Formula

open SheetFormula.Text (isBlank isLetter isLetterOrNumber)
open SheetFormula.Number (digitsValue ofParts takeFraction takeSign)

/-! ## Failures -/

/-- Why a text is not a sequence of tokens. -/
inductive LexFault where
  /-- A text literal has no closing quote. -/
  | unterminated
  /-- A character begins no token. -/
  | unexpected (c : Char)
  /-- A sign that only exists doubled stands alone. -/
  | lone (c : Char)
  deriving Repr, DecidableEq

/-- The wording of a fault. -/
def LexFault.message : LexFault → String
  | .unterminated => "Unterminated string literal"
  | .unexpected c => "Unexpected character: '" ++ c.toString ++ "'"
  | .lone c =>
    let sign := c.toString
    "Unexpected character: '" ++ sign ++ "', did you mean '" ++ sign ++ sign ++ "'?"

/-- A fault and where it is, in characters from the start of the text. -/
structure LexFailure where
  fault : LexFault
  position : Nat
  deriving Repr, DecidableEq

/-- The report of a failure. -/
def LexFailure.report (failure : LexFailure) : String :=
  s!"Tokenize error at position {failure.position}: {failure.fault.message}"

/-! ## Text literals -/

/-- The character that a backslash and `c` stand for. -/
def unescaped (c : Char) : Char :=
  match c with
  | 'n' => '\n'
  | 't' => '\t'
  | 'r' => '\r'
  | c => c

/-- The value of a text literal and what follows it, given what follows its opening quote. There
is none if the closing quote is missing. -/
def readText? (quote : Char) : List Char → Option (List Char × List Char)
  | [] => none
  | ['\\'] => none
  | '\\' :: c :: rest => (readText? quote rest).map fun read => (unescaped c :: read.1, read.2)
  | [c] => if c = quote then some ([], []) else none
  | c :: d :: rest =>
    if c = quote then
      if d = quote then (readText? quote rest).map fun read => (quote :: read.1, read.2)
      else some ([], d :: rest)
    else (readText? quote (d :: rest)).map fun read => (c :: read.1, read.2)

/-- A text literal takes up at least its closing quote. -/
theorem readText?_length {quote : Char} {text value rest : List Char}
    (h : readText? quote text = some (value, rest)) : rest.length < text.length := by
  fun_induction readText? quote text generalizing value rest with
  | case1 => simp at h
  | case2 => simp at h
  | case3 c tail ih =>
    obtain ⟨⟨v, r⟩, hr, heq⟩ := Option.map_eq_some_iff.1 h
    obtain ⟨-, rfl⟩ := Prod.mk.inj heq
    have := ih hr
    simp only [List.length_cons]
    omega
  | case4 => simp_all
  | case5 => simp_all
  | case6 tail _ ih =>
    obtain ⟨⟨v, r⟩, hr, heq⟩ := Option.map_eq_some_iff.1 h
    obtain ⟨-, rfl⟩ := Prod.mk.inj heq
    have := ih hr
    simp only [List.length_cons]
    omega
  | case7 d tail =>
    obtain ⟨-, rfl⟩ := Prod.mk.inj (Option.some.inj h)
    simp
  | case8 c d tail _ _ ih =>
    obtain ⟨⟨v, r⟩, hr, heq⟩ := Option.map_eq_some_iff.1 h
    obtain ⟨-, rfl⟩ := Prod.mk.inj heq
    have := ih hr
    simp only [List.length_cons] at this ⊢
    omega

/-! ## Numbers -/

/-- The exponent at the head of a text, zero if there is none, and what follows it. -/
def takeExponent (text : List Char) : Int × List Char :=
  match text with
  | [] => (0, [])
  | mark :: rest =>
    let (negative, digits) := takeSign rest
    let run := digits.takeWhile Char.isDigit
    if (mark = 'e' ∨ mark = 'E') ∧ run ≠ [] then
      (if negative then -(digitsValue run : Int) else digitsValue run,
        digits.dropWhile Char.isDigit)
    else (0, text)

/-- The number at the head of a text that begins with a digit or a point, and what follows. -/
def readNumber (text : List Char) : Float × List Char :=
  let whole := text.takeWhile Char.isDigit
  let (fraction, afterFraction) := takeFraction (text.dropWhile Char.isDigit)
  let (exponent, rest) := takeExponent afterFraction
  (ofParts false whole fraction exponent, rest)

/-! ## Names -/

/-- A character that begins a name. -/
def beginsName (c : Char) : Bool :=
  isLetter c || c == '_' || c == '$'

/-- A character that continues a name. -/
def continuesName (c : Char) : Bool :=
  isLetterOrNumber c || c == '_' || c == '$'

/-- The token that a word is: one of the word operators or a name. -/
def wordToken (word : List Char) : Token :=
  if word = ['a', 'n', 'd'] then .operator .and
  else if word = ['o', 'r'] then .operator .or
  else if word = ['n', 'o', 't'] then .operator .not
  else .name (String.ofList word)

/-- The word at the head of a text that begins with `first`, and what follows it. -/
def readName (first : Char) (rest : List Char) : Token × List Char :=
  (wordToken (first :: rest.takeWhile continuesName), rest.dropWhile continuesName)

/-! ## Tokens -/

/-- The mark that is a single character. -/
def mark? (c : Char) : Option Token :=
  match c with
  | '(' => some .openParen
  | ')' => some .closeParen
  | '[' => some .openBracket
  | ']' => some .closeBracket
  | ',' => some .comma
  | '?' => some .question
  | ':' => some .colon
  | '+' => some (.operator .plus)
  | '-' => some (.operator .minus)
  | '*' => some (.operator .times)
  | '/' => some (.operator .divide)
  | '^' => some (.operator .power)
  | '%' => some (.operator .modulo)
  | _ => none

/-- The operator that begins with a given character and may go on with a second one, and what
follows it. -/
def readSign? (c : Char) (rest : List Char) : Option (Operator × List Char) :=
  match c, rest with
  | '=', '=' :: rest => some (.same, rest)
  | '=', rest => some (.equal, rest)
  | '!', '=' :: rest => some (.different, rest)
  | '!', rest => some (.not, rest)
  | '<', '=' :: rest => some (.atMost, rest)
  | '<', '>' :: rest => some (.unequal, rest)
  | '<', rest => some (.less, rest)
  | '>', '=' :: rest => some (.atLeast, rest)
  | '>', rest => some (.greater, rest)
  | '&', '&' :: rest => some (.and, rest)
  | '|', '|' :: rest => some (.or, rest)
  | _, _ => none

/-- Whether a text that begins with `c` begins with a number: a digit, or a point and a digit. -/
def beginsNumber (c : Char) (rest : List Char) : Bool :=
  c.isDigit || (c == '.' && (rest.head?.any Char.isDigit))

/-- The token at the head of the text `c :: rest`, whose first character is not blank, and what
follows it. -/
def readToken (c : Char) (rest : List Char) : Except LexFault (Token × List Char) :=
  if c = '"' ∨ c = '\'' then
    match readText? c rest with
    | some (value, rest) => .ok (.text (String.ofList value), rest)
    | none => .error .unterminated
  else if beginsNumber c rest then
    let (value, rest) := readNumber (c :: rest)
    .ok (.number value, rest)
  else if c = '.' then .ok (.dot, rest)
  else if beginsName c then .ok (readName c rest)
  else
    match mark? c, readSign? c rest with
    | some token, _ => .ok (token, rest)
    | none, some (op, rest) => .ok (.operator op, rest)
    | none, none => .error (if c = '&' ∨ c = '|' then .lone c else .unexpected c)

/-! ## Every token takes up characters -/

/-- Dropping a run leaves no more than there was. -/
private theorem length_dropWhile_le_length (p : Char → Bool) (text : List Char) :
    (text.dropWhile p).length ≤ text.length :=
  (List.dropWhile_sublist p).length_le

/-- What follows a fraction is no longer than the text. -/
theorem takeFraction_length (text : List Char) : (takeFraction text).2.length ≤ text.length := by
  unfold takeFraction
  split
  · exact Nat.le_succ_of_le (length_dropWhile_le_length _ _)
  · exact Nat.le_refl _

/-- What follows a sign is no longer than the text. -/
theorem takeSign_length (text : List Char) : (takeSign text).2.length ≤ text.length := by
  unfold takeSign
  split <;> simp

/-- What follows an exponent is no longer than the text. -/
theorem takeExponent_length (text : List Char) : (takeExponent text).2.length ≤ text.length := by
  unfold takeExponent
  split
  · exact Nat.le_refl _
  · rename_i mark rest
    have hsign := takeSign_length rest
    have hdigits := length_dropWhile_le_length Char.isDigit (takeSign rest).2
    simp only [List.length_cons]
    split
    · exact Nat.le_succ_of_le (Nat.le_trans hdigits hsign)
    · simp

/-- A number takes up at least its first character. -/
theorem readNumber_length {c : Char} {rest : List Char} (h : beginsNumber c rest = true) :
    (readNumber (c :: rest)).2.length < (c :: rest).length := by
  have hexp := takeExponent_length (takeFraction ((c :: rest).dropWhile Char.isDigit)).2
  refine Nat.lt_of_le_of_lt hexp ?_
  by_cases hc : c.isDigit = true
  · rw [List.dropWhile_cons_of_pos hc]
    refine Nat.lt_of_le_of_lt (takeFraction_length _) ?_
    exact Nat.lt_succ_of_le (length_dropWhile_le_length _ _)
  · rw [List.dropWhile_cons_of_neg hc]
    have hdot : c = '.' := by
      simp only [beginsNumber, Bool.or_eq_true, Bool.and_eq_true, beq_iff_eq] at h
      rcases h with h | h
      · exact absurd h hc
      · exact h.1
    subst hdot
    exact Nat.lt_succ_of_le (length_dropWhile_le_length _ _)

/-- What follows an operator is no longer than what follows its first character. -/
theorem readSign?_length {c : Char} {rest after : List Char} {op : Operator}
    (h : readSign? c rest = some (op, after)) : after.length ≤ rest.length := by
  unfold readSign? at h
  split at h
  all_goals simp only [Option.some.injEq, Prod.mk.injEq, reduceCtorEq] at h
  all_goals exact h.2 ▸ by simp

/-- Every token takes up at least one character. -/
theorem readToken_length {c : Char} {rest after : List Char} {token : Token}
    (h : readToken c rest = .ok (token, after)) : after.length < (c :: rest).length := by
  unfold readToken at h
  split at h
  · split at h
    · rename_i value tail hread
      simp only [Except.ok.injEq, Prod.mk.injEq] at h
      exact h.2 ▸ Nat.lt_succ_of_lt (readText?_length hread)
    · simp at h
  · split at h
    · rename_i hnum
      simp only [Except.ok.injEq, Prod.mk.injEq] at h
      exact h.2 ▸ readNumber_length hnum
    · split at h
      · simp only [Except.ok.injEq, Prod.mk.injEq] at h
        exact h.2 ▸ Nat.lt_succ_self _
      · split at h
        · simp only [readName, Except.ok.injEq, Prod.mk.injEq] at h
          exact h.2 ▸ Nat.lt_succ_of_le (length_dropWhile_le_length _ _)
        · split at h
          · simp only [Except.ok.injEq, Prod.mk.injEq] at h
            exact h.2 ▸ Nat.lt_succ_self _
          · rename_i op tail _ hsign
            simp only [Except.ok.injEq, Prod.mk.injEq] at h
            exact h.2 ▸ Nat.lt_succ_of_le (readSign?_length hsign)
          · simp at h

/-! ## The tokens of a text -/

/-- The tokens of a text, or the fault and the number of characters from it to the end. -/
def scan (text : List Char) : Except (LexFault × Nat) (List Token) :=
  match text with
  | [] => .ok []
  | c :: rest =>
    if isBlank c then scan rest
    else
      match h : readToken c rest with
      | .error fault => .error (fault, (c :: rest).length)
      | .ok (token, after) =>
        have : after.length < (c :: rest).length := readToken_length h
        (scan after).map (token :: ·)
  termination_by text.length
  decreasing_by
    · exact Nat.lt_succ_self _
    · exact this

/-- The tokens of a formula. -/
def tokenize (text : String) : Except LexFailure (List Token) :=
  (scan text.toList).mapError fun failure => ⟨failure.1, text.length - failure.2⟩

end SheetFormula.Formula

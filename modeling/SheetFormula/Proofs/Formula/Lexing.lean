import SheetFormula.Formula.Lexer
import Mathlib.Data.Nat.Notation
import Mathlib.Tactic.Common

/-!
# How texts are read as tokens

The reader of tokens as two relations: one for a single token at the head of a text, with a case for
each kind of token, and one for all tokens of a text, with the white space between them. From these
it can be seen which pieces of a text its tokens come from. What stands between the quotes of a text
literal is a third relation, between the text that is meant and the text that is written.

## Main definitions

* `SheetFormula.Formula.LiteralBody` — what stands between the quotes of a literal.
* `SheetFormula.Formula.ReadsToken` — the token at the head of a text, and what follows it.
* `SheetFormula.Formula.Scans` — the tokens of a text.
* `SheetFormula.Formula.Operator.spellings` — the texts that an operator is written as.

## Main results

* `SheetFormula.Formula.readText?_eq_some_iff` — a literal is read to its closing quote.
* `SheetFormula.Formula.readToken_eq_ok_iff`, `scan_eq_ok_iff` — the relations are what the reader
  does.
* `SheetFormula.Formula.ReadsToken.exists_spelling` — the text of a token.
* `SheetFormula.Formula.ReadsToken.suffix` — what follows a token.
* `SheetFormula.Formula.Scans.exists_suffix`, `Scans.exists_cons` — where the tokens of a text stand
  in it.
-/

set_option relaxedAutoImplicit false
set_option autoImplicit false

namespace SheetFormula.Formula

open SheetFormula.Number (takeFraction takeSign)
open SheetFormula.Text (isBlank)

/-! ## Text literals -/

/-- The text that a literal stands for, and what is written for it between the quotes. A backslash
takes the next character as it is or as a control character, and a doubled quote is one quote; all
other characters stand for themselves. -/
inductive LiteralBody (quote : Char) : List Char → List Char → Prop
  | nil : LiteralBody quote [] []
  | escape {value written : List Char} (c : Char) (h : LiteralBody quote value written) :
    LiteralBody quote (unescaped c :: value) ('\\' :: c :: written)
  | doubled {value written : List Char} (h : LiteralBody quote value written) :
    LiteralBody quote (quote :: value) (quote :: quote :: written)
  | plain {value written : List Char} {c : Char} (hbackslash : c ≠ '\\') (hquote : c ≠ quote)
    (h : LiteralBody quote value written) : LiteralBody quote (c :: value) (c :: written)

/-- **A text literal is read to its closing quote**, the first one that neither stands behind a
backslash nor is one of a pair. -/
theorem readText?_eq_some_iff {quote : Char} (hquote : quote ≠ '\\')
    {text value after : List Char} : readText? quote text = some (value, after) ↔
      ∃ written, LiteralBody quote value written ∧ text = written ++ quote :: after ∧
        after.head? ≠ some quote := by
  constructor
  · intro h
    fun_induction readText? quote text generalizing value after with
    | case1 => cases h
    | case2 => cases h
    | case3 c tail ih =>
      obtain ⟨⟨read, _⟩, hread, ⟨⟩⟩ := Option.map_eq_some_iff.mp h
      obtain ⟨written, hbody, rfl, hafter⟩ := ih hread
      exact ⟨_, hbody.escape c, rfl, hafter⟩
    | case4 =>
      cases h
      exact ⟨[], .nil, rfl, by simp⟩
    | case5 => cases h
    | case6 tail _ ih =>
      obtain ⟨⟨read, _⟩, hread, ⟨⟩⟩ := Option.map_eq_some_iff.mp h
      obtain ⟨written, hbody, rfl, hafter⟩ := ih hread
      exact ⟨_, hbody.doubled, rfl, hafter⟩
    | case7 d tail hother _ =>
      cases h
      exact ⟨[], .nil, rfl, by simpa using hother⟩
    | case8 c d tail hbackslash hother ih =>
      obtain ⟨⟨read, _⟩, hread, ⟨⟩⟩ := Option.map_eq_some_iff.mp h
      obtain ⟨written, hbody, htext, hafter⟩ := ih hread
      exact ⟨_, hbody.plain hbackslash hother, by rw [htext, List.cons_append], hafter⟩
  · rintro ⟨written, hbody, rfl, hafter⟩
    induction hbody with
    | nil =>
      cases after with
      | nil => simp [readText?]
      | cons d rest =>
        have hd : d ≠ quote := by simpa using hafter
        simp [readText?, hd]
    | escape c _ ih => simp [readText?, ih]
    | doubled _ ih => simp [readText?, ih]
    | @plain value written c _ _ _ ih =>
      -- the reader looks at the character behind, which is the closing quote at the latest
      cases written <;> simp_all [readText?]

/-! ## One token -/

/-- A character that begins neither a literal nor a token with a point, before some text. -/
structure BeginsWord (c : Char) (rest : List Char) : Prop where
  quote : ¬ (c = '"' ∨ c = '\'')
  number : beginsNumber c rest = false
  point : c ≠ '.'

/-- The token at the head of the text `c :: rest`, and what follows it. -/
inductive ReadsToken (c : Char) (rest : List Char) : Token → List Char → Prop
  | text {value after : List Char} (hquote : c = '"' ∨ c = '\'')
    (hread : readText? c rest = some (value, after)) :
    ReadsToken c rest (.text (String.ofList value)) after
  | number {value : Float} {after : List Char} (hquote : ¬ (c = '"' ∨ c = '\''))
    (hbegins : beginsNumber c rest = true) (hread : readNumber (c :: rest) = (value, after)) :
    ReadsToken c rest (.number value) after
  | dot (hpoint : c = '.') (hnumber : beginsNumber c rest = false) : ReadsToken c rest .dot rest
  | name (hword : BeginsWord c rest) (hbegins : beginsName c = true) :
    ReadsToken c rest (wordToken (c :: rest.takeWhile continuesName)) (rest.dropWhile continuesName)
  | mark {token : Token} (hword : BeginsWord c rest) (hname : beginsName c = false)
    (hmark : mark? c = some token) : ReadsToken c rest token rest
  | sign {op : Operator} {after : List Char} (hword : BeginsWord c rest)
    (hname : beginsName c = false) (hmark : mark? c = none)
    (hsign : readSign? c rest = some (op, after)) : ReadsToken c rest (.operator op) after

/-- **The relation for one token is what the reader does.** -/
theorem readToken_eq_ok_iff {c : Char} {rest after : List Char} {token : Token} :
    readToken c rest = .ok (token, after) ↔ ReadsToken c rest token after := by
  constructor
  · intro h
    unfold readToken at h
    by_cases hquote : c = '"' ∨ c = '\''
    · rw [if_pos hquote] at h
      split at h
      next value after' hread =>
        cases h
        exact .text hquote hread
      next => cases h
    by_cases hnumber : beginsNumber c rest = true
    · rw [if_neg hquote, if_pos hnumber] at h
      cases h
      exact .number hquote hnumber rfl
    by_cases hpoint : c = '.'
    · rw [if_neg hquote, if_neg hnumber, if_pos hpoint] at h
      cases h
      exact .dot hpoint (Bool.not_eq_true _ ▸ hnumber)
    have hword : BeginsWord c rest := ⟨hquote, by simpa using hnumber, hpoint⟩
    by_cases hname : beginsName c = true
    · rw [if_neg hquote, if_neg hnumber, if_neg hpoint, if_pos hname] at h
      cases h
      exact .name hword hname
    · rw [if_neg hquote, if_neg hnumber, if_neg hpoint, if_neg hname] at h
      rw [Bool.not_eq_true] at hname
      split at h
      next token' hmark =>
        cases h
        exact .mark hword hname hmark
      next op after' hmark hsign =>
        cases h
        exact .sign hword hname hmark hsign
      next => cases h
  · intro h
    unfold readToken
    cases h with
    | text hquote hread => rw [if_pos hquote, hread]
    | number hquote hbegins hread => rw [if_neg hquote, if_pos hbegins, hread]
    | dot hpoint hnumber =>
      rw [if_neg (by rw [hpoint]; decide), if_neg (by simp [hnumber]), if_pos hpoint]
    | name hword hbegins =>
      rw [if_neg hword.quote, if_neg (by simp [hword.number]), if_neg hword.point, if_pos hbegins]
      rfl
    | mark hword hname hmark =>
      rw [if_neg hword.quote, if_neg (by simp [hword.number]), if_neg hword.point,
        if_neg (by simp [hname]), hmark]
    | sign hword hname hmark hsign =>
      rw [if_neg hword.quote, if_neg (by simp [hword.number]), if_neg hword.point,
        if_neg (by simp [hname]), hmark, hsign]

/-! ## The text of a token -/

/-- The texts that an operator is written as. -/
def Operator.spellings : Operator → List String
  | .and => ["and", "&&"]
  | .or => ["or", "||"]
  | .not => ["not", "!"]
  | op => [op.text]

/-- A word is a name or one of the word operators. -/
lemma wordToken_cases (word : List Char) :
    wordToken word = .name (String.ofList word) ∨
      ∃ op, wordToken word = .operator op ∧ String.ofList word ∈ op.spellings := by
  unfold wordToken
  split_ifs with hand hor hnot
  · exact .inr ⟨.and, rfl, by rw [hand]; decide⟩
  · exact .inr ⟨.or, rfl, by rw [hor]; decide⟩
  · exact .inr ⟨.not, rfl, by rw [hnot]; decide⟩
  · exact .inl rfl

/-- The operators of one character or two are written as these. -/
lemma exists_of_readSign? {c : Char} {rest after : List Char} {op : Operator}
    (h : readSign? c rest = some (op, after)) :
    ∃ spelling ∈ op.spellings, c :: rest = spelling.toList ++ after := by
  unfold readSign? at h
  split at h
  all_goals cases h
  all_goals simp [Operator.spellings, Operator.text]

/-- Whether a token is a number or a text. -/
def Token.isLiteral : Token → Bool
  | .number _ => true
  | .text _ => true
  | _ => false

/-- The texts that a token is written as, unless it is a literal. -/
def Token.spellings : Token → List String
  | .number _ => []
  | .text _ => []
  | .name value => [value]
  | .operator op => op.spellings
  | .openParen => ["("]
  | .closeParen => [")"]
  | .openBracket => ["["]
  | .closeBracket => ["]"]
  | .comma => [","]
  | .dot => ["."]
  | .question => ["?"]
  | .colon => [":"]

/-- The tokens of one character are written as that character. -/
lemma exists_of_mark? {c : Char} {token : Token} (h : mark? c = some token) :
    ∃ spelling ∈ token.spellings, spelling.toList = [c] := by
  unfold mark? at h
  split at h
  all_goals cases h
  all_goals simp [Token.spellings, Operator.spellings, Operator.text]

/-- **The text of a token** other than a literal is one of its spellings, and stands directly before
what follows the token. -/
theorem ReadsToken.exists_spelling {c : Char} {rest after : List Char} {token : Token}
    (h : ReadsToken c rest token after) (hliteral : token.isLiteral = false) :
    ∃ spelling ∈ token.spellings, c :: rest = spelling.toList ++ after := by
  cases h with
  | text => cases hliteral
  | number => cases hliteral
  | dot hpoint => exact ⟨".", by simp [Token.spellings], by simp [hpoint]⟩
  | name =>
    have hword : c :: rest = (String.ofList (c :: rest.takeWhile continuesName)).toList ++
        rest.dropWhile continuesName := by
      rw [String.toList_ofList, List.cons_append, List.takeWhile_append_dropWhile]
    rcases wordToken_cases (c :: rest.takeWhile continuesName) with htoken | ⟨op, htoken, hop⟩
    · rw [htoken]
      exact ⟨_, List.mem_singleton_self _, hword⟩
    · rw [htoken]
      exact ⟨_, hop, hword⟩
  | mark _ _ hmark =>
    obtain ⟨spelling, hmem, hspelling⟩ := exists_of_mark? hmark
    exact ⟨spelling, hmem, by rw [hspelling, List.singleton_append]⟩
  | sign _ _ _ hsign => exact exists_of_readSign? hsign

/-! ## What follows a token -/

/-- The quotes of literals are no backslash. -/
lemma ne_backslash {quote : Char} (h : quote = '"' ∨ quote = '\'') : quote ≠ '\\' := by
  rcases h with rfl | rfl <;> decide

/-- What follows a text literal is the end of the text. -/
lemma readText?_suffix {quote : Char} (hquote : quote ≠ '\\') {text value rest : List Char}
    (h : readText? quote text = some (value, rest)) : rest <:+ text := by
  obtain ⟨written, -, rfl, -⟩ := (readText?_eq_some_iff hquote).mp h
  exact (List.suffix_cons quote rest).trans (List.suffix_append _ _)

/-- What follows a fraction is the end of the text. -/
lemma takeFraction_suffix (text : List Char) : (takeFraction text).2 <:+ text := by
  unfold takeFraction
  split
  · exact (List.dropWhile_suffix _).trans (List.suffix_cons _ _)
  · exact List.suffix_refl _

/-- What follows a sign is the end of the text. -/
lemma takeSign_suffix (text : List Char) : (takeSign text).2 <:+ text := by
  unfold takeSign
  split
  · exact List.suffix_cons _ _
  · exact List.suffix_cons _ _
  · exact List.suffix_refl _

/-- What follows an exponent is the end of the text. -/
lemma takeExponent_suffix (text : List Char) : (takeExponent text).2 <:+ text := by
  unfold takeExponent
  split
  · exact List.suffix_refl _
  · dsimp only
    split_ifs
    · exact ((List.dropWhile_suffix _).trans (takeSign_suffix _)).trans (List.suffix_cons _ _)
    · exact ((List.dropWhile_suffix _).trans (takeSign_suffix _)).trans (List.suffix_cons _ _)
    · exact List.suffix_refl _

/-- What follows a number is the end of the text. -/
lemma readNumber_suffix (text : List Char) : (readNumber text).2 <:+ text :=
  ((takeExponent_suffix _).trans (takeFraction_suffix _)).trans (List.dropWhile_suffix _)

/-- **What follows a token** is the end of the text. -/
theorem ReadsToken.suffix {c : Char} {rest after : List Char} {token : Token}
    (h : ReadsToken c rest token after) : after <:+ c :: rest := by
  cases h with
  | text hquote hread =>
    exact (readText?_suffix (ne_backslash hquote) hread).trans (List.suffix_cons c rest)
  | number hquote hbegins hread =>
    have hsuffix := readNumber_suffix (c :: rest)
    rwa [hread] at hsuffix
  | dot => exact List.suffix_cons c rest
  | name => exact (List.dropWhile_suffix _).trans (List.suffix_cons c rest)
  | mark => exact List.suffix_cons c rest
  | sign _ _ _ hsign =>
    obtain ⟨spelling, -, htext⟩ := exists_of_readSign? hsign
    exact ⟨spelling.toList, htext.symm⟩

/-! ## All tokens -/

/-- The tokens of a text, with white space before and behind them. -/
inductive Scans : List Char → List Token → Prop
  | nil : Scans [] []
  | blank {c : Char} {rest : List Char} {tokens : List Token} (hblank : isBlank c = true)
    (hrest : Scans rest tokens) : Scans (c :: rest) tokens
  | token {c : Char} {rest after : List Char} {token : Token} {tokens : List Token}
    (hblank : isBlank c = false) (hread : ReadsToken c rest token after)
    (hafter : Scans after tokens) : Scans (c :: rest) (token :: tokens)

/-- White space before a text is skipped. -/
lemma scan_blank {c : Char} (hblank : isBlank c = true) (rest : List Char) :
    scan (c :: rest) = scan rest := by
  rw [scan.eq_def]
  exact if_pos hblank

/-- A token comes before those of the text behind it. -/
lemma scan_token {c : Char} {rest after : List Char} {token : Token} (hblank : isBlank c = false)
    (hread : ReadsToken c rest token after) :
    scan (c :: rest) = (scan after).map (token :: ·) := by
  rw [← readToken_eq_ok_iff] at hread
  rw [scan.eq_def]
  dsimp only
  rw [if_neg (by simp [hblank])]
  split
  next fault hfault =>
    rw [hread] at hfault
    cases hfault
  next token' after' hread' =>
    rw [hread] at hread'
    cases hread'
    rfl

/-- **The relation for all tokens is what the reader does.** -/
theorem scan_eq_ok_iff {text : List Char} {tokens : List Token} :
    scan text = .ok tokens ↔ Scans text tokens := by
  constructor
  · intro h
    fun_induction scan text generalizing tokens with
    | case1 =>
      cases h
      exact .nil
    | case2 c rest hblank ih => exact .blank hblank (ih h)
    | case3 => cases h
    | case4 c rest hblank token after hread _ ih =>
      cases hafter : scan after with
      | error failure =>
        rw [hafter] at h
        cases h
      | ok behind =>
        rw [hafter] at h
        cases h
        exact .token (by simpa using hblank) (readToken_eq_ok_iff.mp hread) (ih hafter)
  · intro h
    induction h with
    | nil => rw [scan.eq_def]
    | blank hblank _ ih => rw [scan_blank hblank, ih]
    | token hblank hread _ ih =>
      rw [scan_token hblank hread, ih]
      rfl

/-- The tokens of a text are those of its characters. -/
lemma tokenize_eq_ok_iff {text : String} {tokens : List Token} :
    tokenize text = .ok tokens ↔ Scans text.toList tokens := by
  rw [← scan_eq_ok_iff, tokenize]
  cases scan text.toList <;> simp [Except.mapError]

/-! ## Where tokens stand -/

/-- The first token of a text stands behind white space, and what follows it has the other
tokens. -/
lemma Scans.exists_cons {text : List Char} {token : Token} {tokens : List Token}
    (h : Scans text (token :: tokens)) :
    ∃ gap c rest after, text = gap ++ c :: rest ∧ (∀ d ∈ gap, isBlank d = true) ∧
      ReadsToken c rest token after ∧ Scans after tokens := by
  generalize hall : token :: tokens = all at h
  induction h with
  | nil => cases hall
  | @blank c rest _ hblank _ ih =>
    obtain ⟨gap, c', rest', after, rfl, hgap, hread, hafter⟩ := ih hall
    exact ⟨c :: gap, c', rest', after, rfl, by simpa [hblank] using hgap, hread, hafter⟩
  | @token c rest after _ _ _ hread hafter _ =>
    cases hall
    exact ⟨[], c, rest, after, rfl, by simp, hread, hafter⟩

/-- **The last tokens of a text are those of its last part.** -/
theorem Scans.exists_suffix {text : List Char} {first last : List Token}
    (h : Scans text (first ++ last)) : ∃ front rest, text = front ++ rest ∧ Scans rest last := by
  induction first generalizing text with
  | nil => exact ⟨[], text, rfl, h⟩
  | cons token first ih =>
    obtain ⟨gap, c, rest, after, rfl, -, hread, hafter⟩ := h.exists_cons
    obtain ⟨front, last', rfl, hlast⟩ := ih hafter
    obtain ⟨lexeme, htext⟩ := hread.suffix
    exact ⟨gap ++ lexeme ++ front, last', by rw [← htext]; simp, hlast⟩

end SheetFormula.Formula

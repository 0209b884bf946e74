import SheetFormula.Proofs.Formula.Joining

/-!
# Texts as literals

Every text can be written as a literal, between quotes of either kind. Its backslashes are doubled,
and a quote of that kind is doubled or stands behind a backslash; all other characters, also the
other quote and the end of a line, stand as they are. Such a literal is read as one token, whatever
stands behind it but a further quote, which would be one of a pair.

## Main definitions

* `SheetFormula.Formula.QuotedAs` — the ways to write a text between quotes.
* `SheetFormula.Formula.literalText` — a literal with its quotes.

## Main results

* `SheetFormula.Formula.exists_quotedAs` — every text can be written between quotes.
* `SheetFormula.Formula.scan_literal` — a literal is one token before those of the text behind it.
* `SheetFormula.Formula.tokenize_literal` — the tokens of a literal, alone and before another text.
-/

set_option relaxedAutoImplicit false
set_option autoImplicit false

namespace SheetFormula.Formula

open SheetFormula.Text (isBlank)

/-! ## Ways to write a text -/

/-- A text, and what is written for it between quotes: a backslash is doubled, and a quote is
doubled or written behind a backslash, one quote this way and the next one that way. -/
inductive QuotedAs (quote : Char) : List Char → List Char → Prop
  | nil : QuotedAs quote [] []
  | backslash {value written : List Char} (h : QuotedAs quote value written) :
    QuotedAs quote ('\\' :: value) ('\\' :: '\\' :: written)
  | doubled {value written : List Char} (h : QuotedAs quote value written) :
    QuotedAs quote (quote :: value) (quote :: quote :: written)
  | escaped {value written : List Char} (h : QuotedAs quote value written) :
    QuotedAs quote (quote :: value) ('\\' :: quote :: written)
  | plain {value written : List Char} {c : Char} (hbackslash : c ≠ '\\') (hquote : c ≠ quote)
    (h : QuotedAs quote value written) : QuotedAs quote (c :: value) (c :: written)

/-- A literal: what is written, between two quotes. -/
def literalText (quote : Char) (written : List Char) : String :=
  String.ofList (quote :: (written ++ [quote]))

/-- **Every text can be written between quotes.** -/
theorem exists_quotedAs (quote : Char) (value : List Char) :
    ∃ written, QuotedAs quote value written := by
  induction value with
  | nil => exact ⟨[], .nil⟩
  | cons c value ih =>
    obtain ⟨written, hwritten⟩ := ih
    by_cases hbackslash : c = '\\'
    · subst hbackslash
      exact ⟨_, hwritten.backslash⟩
    by_cases hquote : c = quote
    · subst hquote
      exact ⟨_, hwritten.doubled⟩
    · exact ⟨_, hwritten.plain hbackslash hquote⟩

/-! ## Reading a literal -/

section Literal

variable {quote : Char} (hquote : quote = '"' ∨ quote = '\'') {value written : List Char}
  (h : QuotedAs quote value written)

include hquote

include h in
/-- What is written for a text is read as that text: a quote and a backslash are none of the
characters that a backslash changes. -/
lemma QuotedAs.literalBody : LiteralBody quote value written := by
  have hkept : unescaped quote = quote := by rcases hquote with rfl | rfl <;> rfl
  induction h with
  | nil => exact .nil
  | backslash _ ih => exact ih.escape '\\'
  | doubled _ ih => exact ih.doubled
  | escaped _ ih =>
    have hbody := ih.escape quote
    rwa [hkept] at hbody
  | plain hbackslash hother _ ih => exact ih.plain hbackslash hother

include h in
/-- **A literal is one token before those of the text behind it**, if that text does not begin with
the same quote. -/
theorem scan_literal {rest : List Char} (hrest : rest.head? ≠ some quote) :
    scan (quote :: (written ++ quote :: rest)) =
      (scan rest).map (.text (String.ofList value) :: ·) := by
  have hblank : isBlank quote = false := by rcases hquote with rfl | rfl <;> decide
  have hread : readText? quote (written ++ quote :: rest) = some (value, rest) :=
    (readText?_eq_some_iff (ne_backslash hquote)).mpr
      ⟨written, h.literalBody hquote, rfl, hrest⟩
  exact scan_token hblank (.text hquote hread)

/-- **Every text can be written as a literal**, in quotes of either kind, and each way to write it
is read as one token with that text. Behind the literal there may be any text that does not begin
with the same quote; its tokens follow as they are, and where it fails, the whole fails.

**Proof sketch.** What is written for the text is a literal body with the text as its value, by
induction on the text. The reader of literals takes such a body up to the quote behind it, which is
no pair of quotes as none follows. -/
theorem tokenize_literal (value : String) :
    (∃ written, QuotedAs quote value.toList written) ∧
      ∀ written, QuotedAs quote value.toList written →
        tokenize (literalText quote written) = .ok [.text value] ∧
          ∀ rest : String, rest.toList.head? ≠ some quote →
            (∀ tokens, tokenize rest = .ok tokens →
              tokenize (literalText quote written ++ rest) = .ok (.text value :: tokens)) ∧
            ∀ failure, tokenize rest = .error failure →
              tokenize (literalText quote written ++ rest) =
                .error ⟨failure.fault, (literalText quote written).length + failure.position⟩ := by
  refine ⟨exists_quotedAs quote value.toList, fun written h => ?_⟩
  have hscan (rest : String) (hrest : rest.toList.head? ≠ some quote) :
      scan (literalText quote written ++ rest).toList =
        (scan rest.toList).map ([.text value] ++ ·) := by
    have hliteral := scan_literal hquote h hrest
    rw [String.ofList_toList] at hliteral
    simpa [literalText] using hliteral
  refine ⟨?_, fun rest hrest => tokenize_behind (hscan rest hrest)⟩
  have hempty : tokenize "" = .ok [] := by with_unfolding_all rfl
  have halone := (tokenize_behind (hscan "" (by simp))).1 [] hempty
  rwa [String.append_empty] at halone

end Literal

/-- A text that ends in a backslash and a quote, with its two quotes written in two ways, before an
operator and a name. -/
theorem tokenize_literal_of_mixed_quotes :
    tokenize "'it''s \\\\\\''" = .ok [.text "it's \\'"] ∧
      tokenize ("'it''s \\\\\\''" ++ "+x") =
        .ok [.text "it's \\'", .operator .plus, .name "x"] := by
  have hwritten : QuotedAs '\'' "it's \\'".toList "it''s \\\\\\'".toList :=
    .plain (by decide) (by decide) (.plain (by decide) (by decide) (.doubled
      (.plain (by decide) (by decide) (.plain (by decide) (by decide) (.backslash
        (.escaped .nil))))))
  have hrest : tokenize "+x" = .ok [.operator .plus, .name "x"] := by with_unfolding_all rfl
  have hquote : '\'' = '"' ∨ '\'' = '\'' := .inr rfl
  obtain ⟨-, hliteral⟩ := tokenize_literal hquote "it's \\'"
  obtain ⟨halone, hbefore⟩ := hliteral _ hwritten
  exact ⟨halone, (hbefore "+x" (by decide)).1 _ hrest⟩

end SheetFormula.Formula

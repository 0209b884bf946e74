import SheetFormula.Formula.Compile
import SheetFormula.Proofs.Formula.Lexing
import SheetFormula.Proofs.Text.Runs
import SheetFormula.Proofs.Text.Shape

/-!
# Texts joined by white space

The reader of tokens looks up to three characters beyond what it has read, to see whether a number
goes on with a fraction or an exponent, an operator with a second sign, or a text literal with a
doubled quote. White space at that place is none of what it looks for, just as the end of the text
is. So a text is read alike with white space behind it and at the end, and the tokens of two texts
with white space between them are those of the one and then those of the other.

## Main definitions

* `SheetFormula.Formula.EndsTokens` — the characters that no token goes on with.

## Main results

* `SheetFormula.Formula.EndsTokens.of_isBlank` — white space ends tokens.
* `SheetFormula.Formula.ReadsToken.append` — a token is read alike before a character that ends
  tokens and at the end of the text.
* `SheetFormula.Formula.Scans.scan_append` — so are all tokens of a text.
* `SheetFormula.Formula.tokenize_behind` — tokens in front of a text.
* `SheetFormula.Formula.tokenize_joined` — the tokens of texts that are joined by white space.
-/

set_option relaxedAutoImplicit false
set_option autoImplicit false

namespace SheetFormula.Formula

open SheetFormula.Number (takeFraction takeSign)
open SheetFormula.Text (isBlank blankCodes mem_blankCodes)

/-! ## Characters that end tokens -/

/-- The characters other than those of names and digits that a token can go on with: the quotes, the
marks inside a number, and the second signs of operators. -/
def innerMarks : List Char :=
  ['"', '\'', '.', 'e', 'E', '+', '-', '=', '>', '&', '|']

/-- A character that no token goes on with. -/
structure EndsTokens (d : Char) : Prop where
  name : continuesName d = false
  digit : d.isDigit = false
  mark : d ∉ innerMarks

/-- A character that ends tokens is none of those inside them. -/
lemma EndsTokens.ne {c d : Char} (hd : EndsTokens d) (hc : c ∈ innerMarks) : d ≠ c := by
  rintro rfl
  exact hd.mark hc

/-- **White space ends tokens.** -/
theorem EndsTokens.of_isBlank {d : Char} (h : isBlank d = true) : EndsTokens d := by
  have hcodes : ∀ n ∈ blankCodes, continuesName (Char.ofNat n) = false ∧
      (Char.ofNat n).isDigit = false ∧ Char.ofNat n ∉ innerMarks := by decide +kernel
  obtain ⟨hname, hdigit, hmark⟩ := hcodes d.toNat (mem_blankCodes h)
  rw [Char.ofNat_toNat] at hname hdigit hmark
  exact ⟨hname, hdigit, hmark⟩

/-! ## Runs -/

section Runs

variable {p : Char → Bool} {d : Char} (hd : p d = false) (text more : List Char)

include hd

/-- A run ends before a character that is not of its kind as it does at the end of the text. -/
lemma takeWhile_append_stop : (text ++ d :: more).takeWhile p = text.takeWhile p :=
  Text.takeWhile_append_of_head (by simpa using hd) text

/-- What follows a run goes on with what follows the text. -/
lemma dropWhile_append_stop :
    (text ++ d :: more).dropWhile p = text.dropWhile p ++ d :: more :=
  Text.dropWhile_append_of_head (by simpa using hd) text

end Runs

/-! ## One token -/

section EndsTokens

variable {d : Char} (hd : EndsTokens d) (more : List Char)

include hd

/-- A text literal that is closed stays as it is. -/
lemma readText?_append {quote : Char} (hquote : quote = '"' ∨ quote = '\'')
    {text value after : List Char} (h : readText? quote text = some (value, after)) :
    readText? quote (text ++ d :: more) = some (value, after ++ d :: more) := by
  have hne : d ≠ quote := hd.ne (by rcases hquote with rfl | rfl <;> decide)
  obtain ⟨written, hbody, rfl, hafter⟩ := (readText?_eq_some_iff (ne_backslash hquote)).mp h
  refine (readText?_eq_some_iff (ne_backslash hquote)).mpr ⟨written, hbody, by simp, ?_⟩
  cases after with
  | nil => simpa using hne
  | cons => exact hafter

/-- A sign, or none, stays as it is. -/
lemma takeSign_append (text : List Char) :
    takeSign (text ++ d :: more) = ((takeSign text).1, (takeSign text).2 ++ d :: more) := by
  have hminus : d ≠ '-' := hd.ne (by decide)
  have hplus : d ≠ '+' := hd.ne (by decide)
  exact Number.takeSign_append_of_head (by simp [hminus, hplus]) text

/-- A fraction, or none, stays as it is. -/
lemma takeFraction_append (text : List Char) :
    takeFraction (text ++ d :: more) =
      ((takeFraction text).1, (takeFraction text).2 ++ d :: more) := by
  cases text with
  | nil =>
    have hpoint : d ≠ '.' := hd.ne (by decide)
    simp [takeFraction, hpoint]
  | cons c rest =>
    by_cases hpoint : c = '.'
    · subst hpoint
      rw [List.cons_append, takeFraction, takeFraction, takeWhile_append_stop hd.digit,
        dropWhile_append_stop hd.digit]
    · simp [takeFraction, hpoint]

/-- An exponent, or none, stays as it is. -/
lemma takeExponent_append (text : List Char) :
    takeExponent (text ++ d :: more) =
      ((takeExponent text).1, (takeExponent text).2 ++ d :: more) := by
  cases text with
  | nil =>
    have hlower : d ≠ 'e' := hd.ne (by decide)
    have hupper : d ≠ 'E' := hd.ne (by decide)
    simp [takeExponent, hlower, hupper]
  | cons mark rest =>
    rw [List.cons_append]
    unfold takeExponent
    dsimp only
    rw [takeSign_append hd, takeWhile_append_stop hd.digit, dropWhile_append_stop hd.digit]
    split <;> rfl

/-- A number stays as it is. -/
lemma readNumber_append (text : List Char) :
    readNumber (text ++ d :: more) = ((readNumber text).1, (readNumber text).2 ++ d :: more) := by
  unfold readNumber
  dsimp only
  rw [takeWhile_append_stop hd.digit, dropWhile_append_stop hd.digit, takeFraction_append hd,
    takeExponent_append hd]

/-- What begins a number stays the same. -/
lemma beginsNumber_append (c : Char) (rest : List Char) :
    beginsNumber c (rest ++ d :: more) = beginsNumber c rest := by
  cases rest with
  | nil => simp [beginsNumber, hd.digit]
  | cons => rfl

/-- What begins neither a literal nor a token with a point stays the same. -/
lemma BeginsWord.append {c : Char} {rest : List Char} (h : BeginsWord c rest) :
    BeginsWord c (rest ++ d :: more) :=
  ⟨h.quote, by rw [beginsNumber_append hd, h.number], h.point⟩

/-- An operator of one sign or two stays as it is. -/
lemma readSign?_append {c : Char} {rest after : List Char} {op : Operator}
    (h : readSign? c rest = some (op, after)) :
    readSign? c (rest ++ d :: more) = some (op, after ++ d :: more) := by
  have hequal : d ≠ '=' := hd.ne (by decide)
  have hgreater : d ≠ '>' := hd.ne (by decide)
  unfold readSign? at h ⊢
  cases rest
  all_goals
    split at h
    all_goals cases h
    all_goals simp_all

/-- **A token is read alike before a character that ends tokens**, and that character stands in what
follows the token. -/
theorem ReadsToken.append {c : Char} {rest after : List Char} {token : Token}
    (h : ReadsToken c rest token after) :
    ReadsToken c (rest ++ d :: more) token (after ++ d :: more) := by
  cases h with
  | text hquote hread => exact .text hquote (readText?_append hd more hquote hread)
  | number hquote hbegins hread =>
    refine .number hquote (by rw [beginsNumber_append hd, hbegins]) ?_
    rw [← List.cons_append, readNumber_append hd, hread]
  | dot hpoint hnumber => exact .dot hpoint (by rw [beginsNumber_append hd, hnumber])
  | name hword hbegins =>
    have hname := ReadsToken.name (hword.append hd more) hbegins
    rwa [takeWhile_append_stop hd.name, dropWhile_append_stop hd.name] at hname
  | mark hword hname hmark => exact .mark (hword.append hd more) hname hmark
  | sign hword hname hmark hsign =>
    exact .sign (hword.append hd more) hname hmark (readSign?_append hd more hsign)

/-! ## All tokens -/

/-- **The tokens of a text are the first ones of any longer text** that goes on with a character
that ends tokens; the others are those of the rest, and so is a failure.

**Proof sketch.** Induction on the tokens of the text. Each of them is read alike in the longer
text, and what follows it there is what follows it here with the same characters behind. -/
theorem Scans.scan_append {text : List Char} {tokens : List Token} (h : Scans text tokens) :
    scan (text ++ d :: more) = (scan (d :: more)).map (tokens ++ ·) := by
  induction h with
  | nil =>
    rw [List.nil_append]
    cases scan (d :: more) <;> rfl
  | blank hblank _ ih => rw [List.cons_append, scan_blank hblank, ih]
  | token hblank hread _ ih =>
    rw [List.cons_append, scan_token hblank (hread.append hd more), ih]
    cases scan (d :: more) <;> rfl

end EndsTokens

/-- White space before a text is skipped, however much there is. -/
lemma scan_blanks {blanks : List Char} (hblank : ∀ c ∈ blanks, isBlank c = true)
    (rest : List Char) : scan (blanks ++ rest) = scan rest := by
  induction blanks with
  | nil => rfl
  | cons c blanks ih =>
    rw [List.cons_append, scan_blank (hblank c (List.mem_cons_self ..)),
      ih fun c' hc' => hblank c' (List.mem_cons_of_mem _ hc')]

/-- A text, white space and a second text are read one after the other. -/
lemma Scans.scan_joined {text blanks : List Char} {tokens : List Token} (h : Scans text tokens)
    (hne : blanks ≠ []) (hblank : ∀ c ∈ blanks, isBlank c = true) (rest : List Char) :
    scan (text ++ (blanks ++ rest)) = (scan rest).map (tokens ++ ·) := by
  rw [← scan_blanks hblank rest]
  cases blanks with
  | nil => exact absurd rfl hne
  | cons d blanks =>
    have hd : EndsTokens d := .of_isBlank (hblank d (List.mem_cons_self ..))
    exact h.scan_append hd (blanks ++ rest)

/-- A fault stands inside the text. -/
lemma le_length_of_scan_eq_error {text : List Char} {fault : LexFault} {left : ℕ}
    (h : scan text = .error (fault, left)) : left ≤ text.length := by
  fun_induction scan text with
  | case1 => cases h
  | case2 c rest _ ih => exact (ih h).trans (Nat.le_succ _)
  | case3 =>
    cases h
    exact Nat.le_refl _
  | case4 c rest _ token after hread hlength ih =>
    cases hafter : scan after with
    | error failure =>
      rw [hafter] at h
      cases h
      exact (ih hafter).trans hlength.le
    | ok tokens =>
      rw [hafter] at h
      cases h

/-- **Tokens in front of a text** come before its own tokens, and a failure of the text is that of
the whole, as many characters further on as stand in front. -/
theorem tokenize_behind {front rest : String} {tokens : List Token}
    (h : scan (front ++ rest).toList = (scan rest.toList).map (tokens ++ ·)) :
    (∀ more, tokenize rest = .ok more → tokenize (front ++ rest) = .ok (tokens ++ more)) ∧
      ∀ failure, tokenize rest = .error failure →
        tokenize (front ++ rest) = .error ⟨failure.fault, front.length + failure.position⟩ := by
  refine ⟨fun more hrest => ?_, fun failure hrest => ?_⟩
  · rw [tokenize_eq_ok_iff, ← scan_eq_ok_iff] at hrest
    rw [tokenize, h, hrest]
    rfl
  rw [tokenize] at hrest ⊢
  rw [h]
  cases hfault : scan rest.toList with
  | ok more =>
    rw [hfault] at hrest
    cases hrest
  | error stop =>
    rw [hfault] at hrest
    cases hrest
    -- the place is counted from the end, where the whole text and its last part are alike
    have hleft : stop.2 ≤ rest.length := le_length_of_scan_eq_error hfault
    have hplace := Nat.add_sub_assoc hleft front.length
    rw [String.length_append]
    simp only [Except.map, Except.mapError, hplace]

section Joined

variable (a w b : String) {tokens : List Token} (ha : tokenize a = .ok tokens) (hne : w ≠ "")
  (hblank : ∀ c ∈ w.toList, isBlank c = true)

include ha hne hblank

/-- The tokens of a text, white space and a second text, from those of the second one. -/
lemma scan_joined_texts : scan (a ++ w ++ b).toList = (scan b.toList).map (tokens ++ ·) := by
  have hw : w.toList ≠ [] := fun h => hne (String.toList_eq_nil_iff.mp h)
  rw [String.toList_append, String.toList_append, List.append_assoc]
  exact (tokenize_eq_ok_iff.mp ha).scan_joined hw hblank b.toList

/-- The tokens of the second text come behind those of the first one. -/
lemma tokenize_joined_ok {more : List Token} (hb : tokenize b = .ok more) :
    tokenize (a ++ w ++ b) = .ok (tokens ++ more) :=
  (tokenize_behind (scan_joined_texts a w b ha hne hblank)).1 more hb

/-- A failure of the second text is one of the whole, behind the first text and the white space. -/
lemma tokenize_joined_error {failure : LexFailure} (hb : tokenize b = .error failure) :
    tokenize (a ++ w ++ b) =
      .error ⟨failure.fault, a.length + w.length + failure.position⟩ := by
  rw [← String.length_append]
  exact (tokenize_behind (scan_joined_texts a w b ha hne hblank)).2 failure hb

/-- **The tokens of texts that are joined by white space** are those of the first one and then those
of the second one. A failure of the second one is that of the whole, as many characters further on
as stand before the second one. Which white space it is makes no difference to the formula.

**Proof sketch.** White space ends tokens, so the first text is read as it is on its own, and what
is left is the white space and the second text. The reader counts the place of a fault from the end
of the text, and that count is the same for the second text and for the whole. -/
theorem tokenize_joined :
    (∀ more, tokenize b = .ok more → tokenize (a ++ w ++ b) = .ok (tokens ++ more)) ∧
      (∀ failure, tokenize b = .error failure → tokenize (a ++ w ++ b) =
        .error ⟨failure.fault, a.length + w.length + failure.position⟩) ∧
      ∀ w' : String, w' ≠ "" → (∀ c ∈ w'.toList, isBlank c = true) →
        ∀ more, tokenize b = .ok more → compile (a ++ w ++ b) = compile (a ++ w' ++ b) := by
  refine ⟨fun more => tokenize_joined_ok a w b ha hne hblank,
    fun failure => tokenize_joined_error a w b ha hne hblank, fun w' hne' hblank' more hb => ?_⟩
  rw [compile, compile, tokenize_joined_ok a w b ha hne hblank hb,
    tokenize_joined_ok a w' b ha hne' hblank' hb]

end Joined

/-- Two signs of equality with a space between them are two tokens, and a fault behind the space is
found where it stands. -/
theorem tokenize_joined_equals :
    tokenize ("x=" ++ " " ++ "=y") =
        .ok [.name "x", .operator .equal, .operator .equal, .name "y"] ∧
      tokenize ("x=" ++ " " ++ "=&") = .error ⟨.lone '&', 4⟩ ∧
      compile ("x=" ++ " " ++ "=y") = compile ("x=" ++ "\t\n" ++ "=y") := by
  have ha : tokenize "x=" = .ok [.name "x", .operator .equal] := by with_unfolding_all rfl
  have hb : tokenize "=y" = .ok [.operator .equal, .name "y"] := by with_unfolding_all rfl
  have hfailure : tokenize "=&" = .error ⟨.lone '&', 1⟩ := by with_unfolding_all rfl
  have hne : " " ≠ "" := by decide
  have hblank : ∀ c ∈ " ".toList, isBlank c = true := List.all_eq_true.mp (by decide)
  have htab : ∀ c ∈ "\t\n".toList, isBlank c = true := List.all_eq_true.mp (by decide)
  exact ⟨(tokenize_joined "x=" " " "=y" ha hne hblank).1 _ hb,
    (tokenize_joined "x=" " " "=&" ha hne hblank).2.1 _ hfailure,
    (tokenize_joined "x=" " " "=y" ha hne hblank).2.2 "\t\n" (by decide) htab _ hb⟩

end SheetFormula.Formula

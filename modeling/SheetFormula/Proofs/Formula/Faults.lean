import SheetFormula.Proofs.Formula.Joining

/-!
# Where a text fails to be tokens

A token that ends before the last part of a text is read alike without that part, although the
reader looks a few characters ahead. So when a text fails, what stands before the place of the
failure is a sequence of tokens on its own.

There are three failures: a literal without a closing quote, a sign that only exists doubled, and a
character that begins no token. Numbers do not fail, since the reader takes up only as much of them
as is a numeral.

## Main definitions

* `SheetFormula.Formula.IsClosed` — a text with the closing quote of a literal.
* `SheetFormula.Formula.BeginsNoToken` — the characters that begin no token.
* `SheetFormula.Formula.FaultAt` — the failures at a character.

## Main results

* `SheetFormula.Formula.ReadsToken.of_append` — a token does not depend on what stands behind it.
* `SheetFormula.Formula.beginsNoToken_iff` — the characters that begin no token.
* `SheetFormula.Formula.readToken_eq_error_iff` — how the reader fails at a character.
* `SheetFormula.Formula.exists_numeral_of_beginsNumber` — numbers are numerals.
* `SheetFormula.Formula.failures_of_tokenize` — where and how a text fails.
-/

set_option relaxedAutoImplicit false
set_option autoImplicit false

namespace SheetFormula.Formula

open SheetFormula.Number (readExponent? readNumeral? takeFraction takeSign)
open SheetFormula.Text (isBlank)

/-! ## Readers and the last part of a text -/

section Append

variable {text more after : List Char}

/-- A remainder that goes on with the last part of a text begins before it. -/
lemma exists_eq_append_of_suffix {rest : List Char} (h : after ++ more <:+ rest) :
    ∃ middle, rest = middle ++ more := by
  obtain ⟨middle, hmiddle⟩ := (List.suffix_append after more).trans h
  exact ⟨middle, hmiddle.symm⟩

/-- Nothing stands before a last part that is all of the text. -/
lemma eq_nil_of_suffix (h : after ++ more <:+ more) : after = [] := by
  have hlength := h.length_le
  rw [List.length_append] at hlength
  exact List.eq_nil_of_length_eq_zero (by omega)

/-- A run that ends before the last part of a text is the same without it. -/
lemma takeWhile_of_append {p : Char → Bool} (h : (text ++ more).dropWhile p = after ++ more) :
    text.takeWhile p = (text ++ more).takeWhile p ∧ text.dropWhile p = after := by
  have hsplit := List.takeWhile_append_dropWhile (p := p) (l := text ++ more)
  rw [h, ← List.append_assoc, List.append_cancel_right_eq] at hsplit
  have hrun : ∀ c ∈ (text ++ more).takeWhile p, p c = true := fun c hc =>
    List.mem_takeWhile_imp hc
  have hafter : after.takeWhile p = [] ∧ after.dropWhile p = after := by
    have hhead := List.head?_dropWhile_not p (text ++ more)
    rw [h] at hhead
    cases after with
    | nil => exact ⟨rfl, rfl⟩
    | cons c rest =>
      have hc : p c = false := hhead
      simp [hc]
  generalize (text ++ more).takeWhile p = run at hsplit hrun
  subst hsplit
  rw [List.takeWhile_append_of_pos hrun, List.dropWhile_append_of_pos hrun, hafter.1, hafter.2,
    List.append_nil]
  exact ⟨rfl, rfl⟩

/-- A literal that is closed before the last part of a text is the same without it. -/
lemma readText?_of_append {quote : Char} (hquote : quote ≠ '\\') {value : List Char}
    (h : readText? quote (text ++ more) = some (value, after ++ more)) :
    readText? quote text = some (value, after) := by
  obtain ⟨written, hbody, htext, hafter⟩ := (readText?_eq_some_iff hquote).mp h
  refine (readText?_eq_some_iff hquote).mpr ⟨written, hbody, ?_, ?_⟩
  · rw [← List.cons_append, ← List.append_assoc] at htext
    exact List.append_cancel_right htext
  · cases after with
    | nil => simp
    | cons d rest => exact hafter

/-- What is taken for a sign is decided by the first character. -/
lemma takeSign_cons_append (c : Char) (rest more : List Char) :
    takeSign (c :: rest ++ more) =
      ((takeSign (c :: rest)).1, (takeSign (c :: rest)).2 ++ more) := by
  rw [List.cons_append]
  unfold takeSign
  split <;> simp_all

/-- A sign, or none, is the same without the last part of a text. -/
lemma takeSign_of_append {negative : Bool}
    (h : takeSign (text ++ more) = (negative, after ++ more)) : takeSign text = (negative, after) := by
  cases text with
  | nil =>
    have hsuffix := takeSign_suffix more
    rw [List.nil_append] at h
    rw [h] at hsuffix
    obtain rfl := eq_nil_of_suffix hsuffix
    unfold takeSign at h
    split at h <;> simp_all [takeSign]
  | cons c rest =>
    rw [takeSign_cons_append, Prod.mk.injEq, List.append_cancel_right_eq] at h
    exact Prod.ext h.1 h.2

/-- A text that does not begin with a point has no fraction at its head. -/
lemma takeFraction_cons_of_ne {c : Char} (h : c ≠ '.') (rest : List Char) :
    takeFraction (c :: rest) = ([], c :: rest) := by
  simp [takeFraction, h]

/-- A fraction, or none, is the same without the last part of a text. -/
lemma takeFraction_of_append {fraction : List Char}
    (h : takeFraction (text ++ more) = (fraction, after ++ more)) :
    takeFraction text = (fraction, after) := by
  cases text with
  | nil =>
    have hsuffix := takeFraction_suffix more
    rw [List.nil_append] at h
    rw [h] at hsuffix
    obtain rfl := eq_nil_of_suffix hsuffix
    unfold takeFraction at h
    split at h
    next rest =>
      -- the point is taken, so less is left than there was
      have hlength := (List.dropWhile_suffix Char.isDigit (l := rest)).length_le
      rw [(Prod.mk.inj h).2, List.nil_append, List.length_cons] at hlength
      omega
    next => simp_all [takeFraction]
  | cons c rest =>
    rw [List.cons_append] at h
    by_cases hpoint : c = '.'
    · subst hpoint
      obtain ⟨hrun, hrest⟩ := takeWhile_of_append (Prod.mk.inj h).2
      rw [takeFraction, hrun, hrest, (Prod.mk.inj h).1]
    · rw [takeFraction_cons_of_ne hpoint, Prod.mk.injEq, ← List.cons_append,
        List.append_cancel_right_eq] at h
      rw [takeFraction_cons_of_ne hpoint, h.1, h.2]

/-- A text begins with an exponent: with its mark, and behind a sign or none, with a digit. -/
def BeginsExponent (text : List Char) : Prop :=
  ∃ mark rest, text = mark :: rest ∧ (mark = 'e' ∨ mark = 'E') ∧
    (takeSign rest).2.takeWhile Char.isDigit ≠ []

/-- An exponent is taken with all of its digits. -/
lemma takeExponent_of_begins (h : BeginsExponent text) :
    takeExponent text = (if (takeSign text.tail).1 then
        -(Number.digitsValue ((takeSign text.tail).2.takeWhile Char.isDigit) : ℤ)
      else Number.digitsValue ((takeSign text.tail).2.takeWhile Char.isDigit),
      (takeSign text.tail).2.dropWhile Char.isDigit) := by
  obtain ⟨mark, rest, rfl, hmark⟩ := h
  exact if_pos hmark

/-- Nothing is taken where no exponent begins. -/
lemma takeExponent_of_not_begins (h : ¬ BeginsExponent text) : takeExponent text = (0, text) := by
  cases text with
  | nil => rfl
  | cons mark rest => exact if_neg fun hmark => h ⟨mark, rest, rfl, hmark⟩

/-- An exponent at the head of a text is one of any longer text. -/
lemma BeginsExponent.append (h : BeginsExponent text) (more : List Char) :
    BeginsExponent (text ++ more) := by
  obtain ⟨mark, rest, rfl, hmark, hrun⟩ := h
  refine ⟨mark, rest ++ more, rfl, hmark, ?_⟩
  cases rest with
  | nil => exact absurd rfl hrun
  | cons c rest =>
    rw [takeSign_cons_append]
    generalize (takeSign (c :: rest)).2 = digits at hrun ⊢
    cases digits with
    | nil => exact absurd rfl hrun
    | cons d digits =>
      by_cases hd : d.isDigit
      · simp [hd]
      · simp [hd] at hrun

/-- An exponent, or none, is the same without the last part of a text. -/
lemma takeExponent_of_append {exponent : ℤ}
    (h : takeExponent (text ++ more) = (exponent, after ++ more)) :
    takeExponent text = (exponent, after) := by
  by_cases hbegins : BeginsExponent (text ++ more)
  · rw [takeExponent_of_begins hbegins] at h
    obtain ⟨hexponent, hrest⟩ := Prod.mk.inj h
    obtain ⟨mark, rest, htext, hmark, hrun⟩ := hbegins
    rw [htext, List.tail_cons] at hexponent hrest
    have hsuffix := (List.dropWhile_suffix Char.isDigit).trans (takeSign_suffix rest)
    rw [hrest] at hsuffix
    cases text with
    | nil =>
      -- the mark is taken, so less is left than there was
      have hlength := hsuffix.length_le
      rw [← List.nil_append more, htext, List.length_append, List.length_cons] at hlength
      omega
    | cons c tail =>
      rw [List.cons_append] at htext
      obtain ⟨rfl, rfl⟩ := List.cons.inj htext
      obtain ⟨middle, hmiddle⟩ : ∃ middle, (takeSign (tail ++ more)).2 = middle ++ more :=
        exists_eq_append_of_suffix (hrest ▸ List.dropWhile_suffix _)
      have hsign : takeSign tail = ((takeSign (tail ++ more)).1, middle) :=
        takeSign_of_append (Prod.ext rfl hmiddle)
      rw [hmiddle] at hexponent hrest hrun
      obtain ⟨htake, hdrop⟩ := takeWhile_of_append hrest
      rw [← htake] at hexponent hrun
      have hbegins : BeginsExponent (c :: tail) := ⟨c, tail, rfl, hmark, by rwa [hsign]⟩
      rw [takeExponent_of_begins hbegins, List.tail_cons, hsign, hexponent, hdrop]
  · rw [takeExponent_of_not_begins hbegins, Prod.mk.injEq, List.append_cancel_right_eq] at h
    rw [takeExponent_of_not_begins fun h => hbegins (h.append more), h.1, h.2]

/-- A number is the same without the last part of a text. -/
lemma readNumber_of_append {value : Float}
    (h : readNumber (text ++ more) = (value, after ++ more)) : readNumber text = (value, after) := by
  obtain ⟨tail, htail⟩ : ∃ tail, (text ++ more).dropWhile Char.isDigit = tail := ⟨_, rfl⟩
  obtain ⟨fraction, afterFraction, hfraction⟩ : ∃ fraction afterFraction,
      takeFraction tail = (fraction, afterFraction) := ⟨_, _, rfl⟩
  obtain ⟨exponent, rest, hexponent⟩ : ∃ exponent rest,
      takeExponent afterFraction = (exponent, rest) := ⟨_, _, rfl⟩
  simp only [readNumber, htail, hfraction, hexponent, Prod.mk.injEq] at h
  obtain ⟨hvalue, rfl⟩ := h
  -- each step leaves a text that goes on with the last part, since the next ones do
  have hsuffix := takeExponent_suffix afterFraction
  rw [hexponent] at hsuffix
  obtain ⟨afterFraction, rfl⟩ := exists_eq_append_of_suffix hsuffix
  have hsuffix := takeFraction_suffix tail
  rw [hfraction] at hsuffix
  obtain ⟨tail, rfl⟩ := exists_eq_append_of_suffix hsuffix
  obtain ⟨hwhole, hrest⟩ := takeWhile_of_append htail
  simp only [readNumber, hwhole, hrest, takeFraction_of_append hfraction,
    takeExponent_of_append hexponent, hvalue]

/-- What begins no number does not do so without the last part of a text. -/
lemma beginsNumber_eq_false_of_append {c : Char} {rest : List Char}
    (h : beginsNumber c (rest ++ more) = false) : beginsNumber c rest = false := by
  cases rest with
  | nil => simp_all [beginsNumber]
  | cons => exact h

/-- What begins neither a literal nor a token with a point does so without the last part of a
text. -/
lemma BeginsWord.of_append {c : Char} {rest : List Char} (h : BeginsWord c (rest ++ more)) :
    BeginsWord c rest :=
  ⟨h.quote, beginsNumber_eq_false_of_append h.number, h.point⟩

/-- A number that ends before the last part of a text begins there. -/
lemma beginsNumber_of_readNumber {c : Char} {rest : List Char} {value : Float}
    (h : beginsNumber c (rest ++ more) = true)
    (hread : readNumber (c :: (rest ++ more)) = (value, after ++ more)) :
    beginsNumber c rest = true := by
  cases rest with
  | cons d rest => exact h
  | nil =>
    rw [List.nil_append] at h hread
    by_contra hnumber
    obtain ⟨hdigit, rfl, d, rest, rfl, hd⟩ : c.isDigit = false ∧ c = '.' ∧
        ∃ d rest, more = d :: rest ∧ d.isDigit := by
      cases more <;> simp_all [beginsNumber]
    -- the digit behind the point is taken, so less is left than there was
    have hsuffix := takeExponent_suffix (rest.dropWhile Char.isDigit)
    have hrest : (takeExponent (rest.dropWhile Char.isDigit)).2 = after ++ d :: rest := by
      have hfraction : takeFraction (('.' :: d :: rest).dropWhile Char.isDigit) =
          ((d :: rest).takeWhile Char.isDigit, (d :: rest).dropWhile Char.isDigit) := rfl
      simp only [readNumber, hfraction, List.dropWhile_cons_of_pos hd] at hread
      exact (Prod.mk.inj hread).2
    have hlength := (hsuffix.trans (List.dropWhile_suffix _)).length_le
    rw [hrest, List.length_append, List.length_cons] at hlength
    omega

/-- Which operator is read is decided by two characters. -/
lemma readSign?_cons_append (c d : Char) (rest more : List Char) :
    readSign? c (d :: rest ++ more) =
      (readSign? c (d :: rest)).map fun read => (read.1, read.2 ++ more) := by
  rw [List.cons_append]
  unfold readSign?
  split
  all_goals simp_all

/-- An operator of one sign or two is the same without the last part of a text. -/
lemma readSign?_of_append {c : Char} {rest : List Char} {op : Operator}
    (h : readSign? c (rest ++ more) = some (op, after ++ more)) :
    readSign? c rest = some (op, after) := by
  cases rest with
  | nil =>
    have hlength := readSign?_length h
    rw [List.nil_append, List.length_append] at hlength
    obtain rfl : after = [] := List.eq_nil_of_length_eq_zero (by omega)
    unfold readSign? at h ⊢
    split at h
    all_goals simp_all
  | cons d rest =>
    rw [readSign?_cons_append, Option.map_eq_some_iff] at h
    obtain ⟨⟨op', after'⟩, hread, hsame⟩ := h
    obtain ⟨rfl, rfl⟩ : op' = op ∧ after' = after := by simpa using hsame
    exact hread

/-- **A token does not depend on what stands behind its end**, though the reader looks at it. -/
theorem ReadsToken.of_append {c : Char} {rest : List Char} {token : Token}
    (h : ReadsToken c (rest ++ more) token (after ++ more)) : ReadsToken c rest token after := by
  generalize hafter : after ++ more = behind at h
  cases h with
  | text hquote hread =>
    subst hafter
    exact .text hquote (readText?_of_append (ne_backslash hquote) hread)
  | number hquote hbegins hread =>
    subst hafter
    exact .number hquote (beginsNumber_of_readNumber hbegins hread) (readNumber_of_append hread)
  | dot hpoint hnumber =>
    obtain rfl := List.append_cancel_right hafter
    exact .dot hpoint (beginsNumber_eq_false_of_append hnumber)
  | name hword hbegins =>
    obtain ⟨hrun, hrest⟩ := takeWhile_of_append hafter.symm
    rw [← hrun, ← hrest]
    exact .name hword.of_append hbegins
  | mark hword hname hmark =>
    obtain rfl := List.append_cancel_right hafter
    exact .mark hword.of_append hname hmark
  | sign hword hname hmark hsign =>
    subst hafter
    exact .sign hword.of_append hname hmark (readSign?_of_append hsign)

end Append

/-! ## Failures at a character -/

/-- A text begins with the rest of a literal: its body and a closing quote, which is not one of a
pair. -/
def IsClosed (quote : Char) (text : List Char) : Prop :=
  ∃ value written after, LiteralBody quote value written ∧ text = written ++ quote :: after ∧
    after.head? ≠ some quote

/-- A character that begins no token, whatever stands behind it. -/
def BeginsNoToken (c : Char) : Prop :=
  ∀ rest token after, ¬ ReadsToken c rest token after

/-- The failures at a character, before the rest of a text. -/
inductive FaultAt (c : Char) (rest : List Char) : LexFault → Prop
  | unterminated (hquote : c = '"' ∨ c = '\'') (hopen : ¬ IsClosed c rest) :
    FaultAt c rest .unterminated
  | lone (hsign : c = '&' ∨ c = '|') (hlone : rest.head? ≠ some c) : FaultAt c rest (.lone c)
  | unexpected (hnone : BeginsNoToken c) : FaultAt c rest (.unexpected c)

/-- A literal without a closing quote is read as no token. -/
lemma readText?_eq_none_iff {quote : Char} (hquote : quote ≠ '\\') {text : List Char} :
    readText? quote text = none ↔ ¬ IsClosed quote text := by
  rw [← not_iff_not, not_not, ← ne_eq, Option.ne_none_iff_exists']
  constructor
  · rintro ⟨⟨value, after⟩, hread⟩
    obtain ⟨written, hclosed⟩ := (readText?_eq_some_iff hquote).mp hread
    exact ⟨value, written, after, hclosed⟩
  · rintro ⟨value, written, after, hclosed⟩
    exact ⟨_, (readText?_eq_some_iff hquote).mpr ⟨written, hclosed⟩⟩

/-- The characters that the operators of one sign or two begin with. -/
def signs : List Char := ['=', '!', '<', '>', '&', '|']

/-- A sign begins an operator, before nothing or before itself. -/
lemma exists_of_mem_signs {c : Char} (h : c ∈ signs) :
    ∃ rest op after, readSign? c rest = some (op, after) := by
  simp only [signs, List.mem_cons, List.not_mem_nil, or_false] at h
  rcases h with rfl | rfl | rfl | rfl | rfl | rfl
  exacts [⟨[], .equal, [], rfl⟩, ⟨[], .not, [], rfl⟩, ⟨[], .less, [], rfl⟩, ⟨[], .greater, [], rfl⟩,
    ⟨['&'], .and, [], rfl⟩, ⟨['|'], .or, [], rfl⟩]

/-- Other characters begin no operator of one sign or two. -/
lemma readSign?_eq_none_of_notMem {c : Char} (h : c ∉ signs) (rest : List Char) :
    readSign? c rest = none := by
  unfold readSign?
  split
  all_goals simp_all [signs]

/-- Where no operator begins, a sign that exists doubled only stands alone, or the character is no
sign. -/
lemma cases_of_readSign?_eq_none {c : Char} {rest : List Char} (h : readSign? c rest = none) :
    (c = '&' ∨ c = '|') ∧ rest.head? ≠ some c ∨ ¬ (c = '&' ∨ c = '|') ∧ c ∉ signs := by
  by_cases hsign : c = '&' ∨ c = '|'
  · refine .inl ⟨hsign, fun hhead => ?_⟩
    obtain ⟨rest, rfl⟩ := List.head?_eq_some_iff.mp hhead
    rcases hsign with rfl | rfl <;> cases h
  · refine .inr ⟨hsign, fun hmem => ?_⟩
    have hother : c = '=' ∨ c = '!' ∨ c = '<' ∨ c = '>' := by
      simp only [signs, List.mem_cons, List.not_mem_nil, or_false] at hmem
      tauto
    rcases hother with rfl | rfl | rfl | rfl
    all_goals
      unfold readSign? at h
      split at h <;> simp_all

/-- **The characters that begin no token** are no quotes, digits or points, and begin no name and no
operator. -/
theorem beginsNoToken_iff {c : Char} :
    BeginsNoToken c ↔ ¬ (c = '"' ∨ c = '\'') ∧ c.isDigit = false ∧ c ≠ '.' ∧
      beginsName c = false ∧ mark? c = none ∧ c ∉ signs := by
  constructor
  · intro h
    have hquote : ¬ (c = '"' ∨ c = '\'') := by
      intro hquote
      have hread : readText? c [c] = some ([], []) :=
        (readText?_eq_some_iff (ne_backslash hquote)).mpr ⟨[], .nil, rfl, by simp⟩
      exact h [c] _ _ (.text hquote hread)
    have hdigit : c.isDigit = false := by
      by_contra hdigit
      exact h [] _ _ (.number hquote (by simp_all [beginsNumber]) rfl)
    have hpoint : c ≠ '.' := fun hpoint =>
      h [] _ _ (.dot hpoint (by simp [beginsNumber, hdigit]))
    have hword (rest : List Char) : BeginsWord c rest :=
      ⟨hquote, by simp [beginsNumber, hdigit, hpoint], hpoint⟩
    have hname : beginsName c = false := by
      by_contra hname
      exact h [] _ _ (.name (hword []) (by simpa using hname))
    have hmark : mark? c = none := by
      by_contra hmark
      obtain ⟨token, htoken⟩ := Option.ne_none_iff_exists'.mp hmark
      exact h [] _ _ (.mark (hword []) hname htoken)
    refine ⟨hquote, hdigit, hpoint, hname, hmark, fun hsign => ?_⟩
    obtain ⟨rest, op, after, hread⟩ := exists_of_mem_signs hsign
    exact h rest _ _ (.sign (hword rest) hname hmark hread)
  · rintro ⟨hquote, hdigit, hpoint, hname, hmark, hsign⟩ rest token after hread
    cases hread with
    | text hquote' => exact hquote hquote'
    | number _ hbegins => simp [beginsNumber, hdigit, hpoint] at hbegins
    | dot hpoint' => exact hpoint hpoint'
    | name _ hname' => simp [hname] at hname'
    | mark _ _ hmark' => simp [hmark] at hmark'
    | sign _ _ _ hsign' => simp [readSign?_eq_none_of_notMem hsign] at hsign'

instance (c : Char) : Decidable (BeginsNoToken c) :=
  decidable_of_iff _ beginsNoToken_iff.symm

example : BeginsNoToken '#' ∧ ¬ BeginsNoToken '$' := by decide

/-- Where the reader fails, it does so in one of three ways. -/
lemma faultAt_of_readToken {c : Char} {rest : List Char} {fault : LexFault}
    (h : readToken c rest = .error fault) : FaultAt c rest fault := by
  unfold readToken at h
  by_cases hquote : c = '"' ∨ c = '\''
  · rw [if_pos hquote] at h
    split at h
    next => cases h
    next hnone =>
      cases h
      exact .unterminated hquote ((readText?_eq_none_iff (ne_backslash hquote)).mp hnone)
  rw [if_neg hquote] at h
  by_cases hnumber : beginsNumber c rest = true
  · rw [if_pos hnumber] at h
    cases h
  rw [if_neg hnumber] at h
  by_cases hpoint : c = '.'
  · rw [if_pos hpoint] at h
    cases h
  rw [if_neg hpoint] at h
  by_cases hname : beginsName c = true
  · rw [if_pos hname] at h
    cases h
  rw [if_neg hname] at h
  split at h
  next => cases h
  next => cases h
  next hmark hsign =>
    rcases cases_of_readSign?_eq_none hsign with ⟨hdoubled, hlone⟩ | ⟨hother, hmem⟩
    · rw [if_pos hdoubled] at h
      cases h
      exact .lone hdoubled hlone
    · rw [if_neg hother] at h
      cases h
      have hdigit : c.isDigit = false := by
        simp only [beginsNumber, Bool.or_eq_true, not_or] at hnumber
        simpa using hnumber.1
      exact .unexpected
        (beginsNoToken_iff.mpr ⟨hquote, hdigit, hpoint, by simpa using hname, hmark, hmem⟩)

/-- Where there is a failure, no token is read. -/
lemma FaultAt.not_readsToken {c : Char} {rest after : List Char} {fault : LexFault} {token : Token}
    (h : FaultAt c rest fault) : ¬ ReadsToken c rest token after := by
  intro hread
  cases h with
  | unterminated hquote hopen =>
    cases hread with
    | text _ hread =>
      rw [(readText?_eq_none_iff (ne_backslash hquote)).mpr hopen] at hread
      cases hread
    | number hother => exact hother hquote
    | dot hpoint =>
      subst hpoint
      exact absurd hquote (by decide)
    | name hword => exact hword.quote hquote
    | mark hword => exact hword.quote hquote
    | sign hword => exact hword.quote hquote
  | lone hsign hlone =>
    have hnone : readSign? c rest = none := by
      unfold readSign?
      split
      all_goals simp_all
    rcases hsign with rfl | rfl
    all_goals
      cases hread with
      | text hquote => exact absurd hquote (by decide)
      | number _ hbegins => exact absurd hbegins (by simp [beginsNumber])
      | dot hpoint => exact absurd hpoint (by decide)
      | name _ hname => exact absurd hname (by decide)
      | mark _ _ hmark => cases hmark
      | sign _ _ _ hsign =>
        rw [hnone] at hsign
        cases hsign
  | unexpected hnone => exact hnone _ _ _ hread

/-- There is one failure at a character at most. -/
lemma FaultAt.unique {c : Char} {rest : List Char} {fault fault' : LexFault}
    (h : FaultAt c rest fault) (h' : FaultAt c rest fault') : fault = fault' := by
  have hapart : ¬ ((c = '"' ∨ c = '\'') ∧ (c = '&' ∨ c = '|')) := by
    rintro ⟨rfl | rfl, hsign⟩ <;> revert hsign <;> decide
  have hsigns (hnone : BeginsNoToken c) : ¬ (c = '&' ∨ c = '|') := by
    have hmem := (beginsNoToken_iff.mp hnone).2.2.2.2.2
    rintro (rfl | rfl) <;> exact hmem (by decide)
  cases h with
  | unterminated hquote =>
    cases h' with
    | unterminated => rfl
    | lone hsign => exact absurd ⟨hquote, hsign⟩ hapart
    | unexpected hnone => exact absurd hquote (beginsNoToken_iff.mp hnone).1
  | lone hsign =>
    cases h' with
    | unterminated hquote => exact absurd ⟨hquote, hsign⟩ hapart
    | lone => rfl
    | unexpected hnone => exact absurd hsign (hsigns hnone)
  | unexpected hnone =>
    cases h' with
    | unterminated hquote => exact absurd hquote (beginsNoToken_iff.mp hnone).1
    | lone hsign => exact absurd hsign (hsigns hnone)
    | unexpected => rfl

/-- **How the reader fails at a character**: in one of three ways. -/
theorem readToken_eq_error_iff {c : Char} {rest : List Char} {fault : LexFault} :
    readToken c rest = .error fault ↔ FaultAt c rest fault := by
  refine ⟨faultAt_of_readToken, fun h => ?_⟩
  cases hread : readToken c rest with
  | ok read => exact absurd (readToken_eq_ok_iff.mp hread) h.not_readsToken
  | error fault' => rw [h.unique (faultAt_of_readToken hread)]

/-! ## Where a text fails -/

/-- A failure at a character that is not blank is the failure of the text from there. -/
lemma scan_fault {c : Char} {rest : List Char} {fault : LexFault} (hblank : isBlank c = false)
    (h : FaultAt c rest fault) : scan (c :: rest) = .error (fault, (c :: rest).length) := by
  rw [← readToken_eq_error_iff] at h
  rw [scan.eq_def]
  dsimp only
  rw [if_neg (by simp [hblank])]
  split
  next fault' hfault =>
    rw [h] at hfault
    cases hfault
    rfl
  next token after hread =>
    rw [h] at hread
    cases hread

/-- **Where the reader fails**: at a character that is not blank, and what stands before it is a
sequence of tokens on its own. -/
theorem exists_of_scan_eq_error {text : List Char} {fault : LexFault} {left : ℕ}
    (h : scan text = .error (fault, left)) :
    ∃ before c rest tokens, text = before ++ c :: rest ∧ left = (c :: rest).length ∧
      Scans before tokens ∧ isBlank c = false ∧ FaultAt c rest fault := by
  fun_induction scan text with
  | case1 => cases h
  | case2 c rest hblank ih =>
    obtain ⟨before, c', rest', tokens, rfl, hleft, hscans, hfault⟩ := ih h
    exact ⟨c :: before, c', rest', tokens, rfl, hleft, hscans.blank hblank, hfault⟩
  | case3 c rest hblank fault' hread =>
    cases h
    exact ⟨[], c, rest, [], rfl, rfl, .nil, by simpa using hblank, readToken_eq_error_iff.mp hread⟩
  | case4 c rest hblank token after hread _ ih =>
    cases hafter : scan after with
    | ok tokens =>
      rw [hafter] at h
      cases h
    | error failure =>
      rw [hafter] at h
      cases h
      obtain ⟨before, c', rest', tokens, rfl, hleft, hscans, hfault⟩ := ih hafter
      -- the token ends before the failure, so it is read alike in what stands before that
      have hread := readToken_eq_ok_iff.mp hread
      obtain ⟨lexeme, htext⟩ := hread.suffix
      cases lexeme with
      | nil =>
        have hlength := readToken_length (readToken_eq_ok_iff.mpr hread)
        rw [← htext] at hlength
        exact absurd hlength (lt_irrefl _)
      | cons d lexeme =>
        rw [List.cons_append, List.cons.injEq] at htext
        obtain ⟨rfl, rfl⟩ := htext
        rw [← List.append_assoc] at hread
        refine ⟨d :: (lexeme ++ before), c', rest', token :: tokens, by simp, hleft, ?_, hfault⟩
        exact .token (by simpa using hblank) hread.of_append hscans

/-! ## Numbers do not fail -/

/-- An exponent that is taken to the end of a text is one that takes up the text. -/
lemma readExponent?_of_takeExponent {text : List Char} {exponent : ℤ}
    (h : takeExponent text = (exponent, [])) : readExponent? text = some exponent := by
  cases text with
  | nil =>
    obtain ⟨rfl, -⟩ := Prod.mk.inj h
    rfl
  | cons mark rest =>
    by_cases hbegins : BeginsExponent (mark :: rest)
    · rw [takeExponent_of_begins hbegins, List.tail_cons, Prod.mk.injEq] at h
      obtain ⟨mark', rest', hsame, hmark, hrun⟩ := hbegins
      obtain ⟨rfl, rfl⟩ := List.cons.inj hsame
      have hdigits : ∀ d ∈ (takeSign rest).2, d.isDigit = true := by
        simpa [List.dropWhile_eq_nil_iff] using h.2
      rw [List.takeWhile_eq_self_iff.mpr hdigits] at h hrun
      exact (if_pos ⟨hmark, hrun, List.all_eq_true.mpr hdigits⟩).trans (congrArg some h.1)
    · rw [takeExponent_of_not_begins hbegins] at h
      cases (Prod.mk.inj h).2

/-- A number that takes up a text is read from it as a numeral. -/
lemma readNumeral?_of_readNumber {c : Char} {rest : List Char} {value : Float}
    (h : beginsNumber c rest = true) (hread : readNumber (c :: rest) = (value, [])) :
    readNumeral? (c :: rest) = some value := by
  have hsign : takeSign (c :: rest) = (false, c :: rest) := by
    unfold takeSign
    split <;> simp_all [beginsNumber]
  have hdigits : (c :: rest).takeWhile Char.isDigit ++
      (takeFraction ((c :: rest).dropWhile Char.isDigit)).1 ≠ [] := by
    by_cases hc : c.isDigit = true
    · simp [hc]
    · obtain ⟨rfl, d, tail, rfl, hd⟩ : c = '.' ∧ ∃ d tail, rest = d :: tail ∧ d.isDigit := by
        cases rest <;> simp_all [beginsNumber]
      rw [List.dropWhile_cons_of_neg (by decide), takeFraction, List.takeWhile_cons_of_pos hd]
      simp
  obtain ⟨exponent, after, hexponent⟩ : ∃ exponent after,
      takeExponent (takeFraction ((c :: rest).dropWhile Char.isDigit)).2 = (exponent, after) :=
    ⟨_, _, rfl⟩
  simp only [readNumber, hexponent, Prod.mk.injEq] at hread
  obtain ⟨hvalue, rfl⟩ := hread
  simp only [readNumeral?, hsign, if_neg hdigits, readExponent?_of_takeExponent hexponent,
    Option.map_some, hvalue]

/-- **Numbers are numerals**: where a number begins, the reader takes up a numeral, with its
value. -/
theorem exists_numeral_of_beginsNumber {c : Char} {rest : List Char}
    (h : beginsNumber c rest = true) :
    ∃ lexeme value after, c :: rest = lexeme ++ after ∧ readNumeral? lexeme = some value ∧
      ReadsToken c rest (.number value) after := by
  obtain ⟨value, after, hread⟩ : ∃ value after, readNumber (c :: rest) = (value, after) :=
    ⟨_, _, rfl⟩
  have hquote : ¬ (c = '"' ∨ c = '\'') := by
    rintro (rfl | rfl) <;> simp [beginsNumber] at h
  have htoken : ReadsToken c rest (.number value) after := .number hquote h hread
  obtain ⟨lexeme, htext⟩ := htoken.suffix
  refine ⟨lexeme, value, after, htext.symm, ?_, htoken⟩
  cases lexeme with
  | nil =>
    have hlength := readNumber_length h
    rw [hread, ← htext] at hlength
    exact absurd hlength (lt_irrefl _)
  | cons d lexeme =>
    rw [List.cons_append, List.cons.injEq] at htext
    obtain ⟨rfl, rfl⟩ := htext
    have hread' : readNumber (d :: lexeme ++ after) = (value, [] ++ after) := hread
    exact readNumeral?_of_readNumber (beginsNumber_of_readNumber h hread')
      (readNumber_of_append hread')

/-! ## The failures of texts -/

/-- The wordings of failures begin alike. -/
lemma LexFault.exists_message (fault : LexFault) : ∃ more, fault.message.toList = 'U' :: more := by
  cases fault with
  | unterminated => exact ⟨_, by with_unfolding_all rfl⟩
  | unexpected c =>
    show ∃ more, ("Unexpected character: '" ++ c.toString ++ "'").toList = 'U' :: more
    simp
  | lone c =>
    show ∃ more, ("Unexpected character: '" ++ c.toString ++ "', did you mean '" ++ c.toString ++
      c.toString ++ "'?").toList = 'U' :: more
    simp

/-- No failure is worded as one of a number or of a missing quote. -/
lemma LexFault.message_ne (fault : LexFault) :
    (∀ number : String, fault.message ≠ "Invalid number: " ++ number) ∧
      fault.message ≠ "Expected string literal" := by
  obtain ⟨more, hmore⟩ := fault.exists_message
  refine ⟨fun number h => ?_, fun h => ?_⟩
  · rw [h] at hmore
    simp at hmore
  · rw [h] at hmore
    simp at hmore

/-- **Failures are local, and there are three.** A text that is not a sequence of tokens fails at
one of its characters, which is not blank; what stands before it is a sequence of tokens on its own,
and the failure is one of that character: a literal that is not closed, a sign that is not doubled,
or a character that begins no token. Each of these is a failure of the texts that begin so. Numbers
do not fail: where one begins, the reader takes up a numeral, with its value.

**Proof sketch.** Induction along the reader finds the place of the failure. The tokens before it
end there at the latest, so they are read alike in what stands before it. -/
theorem failures_of_tokenize :
    (∀ (text : String) (failure : LexFailure), tokenize text = .error failure →
      failure.position < text.length ∧
      (∃ tokens, tokenize (String.ofList (text.toList.take failure.position)) = .ok tokens) ∧
      (∃ c, text.toList[failure.position]? = some c ∧ isBlank c = false ∧
        FaultAt c (text.toList.drop (failure.position + 1)) failure.fault) ∧
      (∀ number : String, failure.fault.message ≠ "Invalid number: " ++ number) ∧
      failure.fault.message ≠ "Expected string literal") ∧
    (∀ (c : Char) (rest : List Char) (fault : LexFault), isBlank c = false → FaultAt c rest fault →
      tokenize (String.ofList (c :: rest)) = .error ⟨fault, 0⟩) ∧
    ∀ (c : Char) (rest : List Char), beginsNumber c rest = true →
      ∃ lexeme value after, c :: rest = lexeme ++ after ∧ readNumeral? lexeme = some value ∧
        readToken c rest = .ok (.number value, after) := by
  refine ⟨fun text failure h => ?_, fun c rest fault hblank hfault => ?_, fun c rest hnumber => ?_⟩
  · obtain ⟨⟨fault, left⟩, hscan, hfailure⟩ : ∃ failed, scan text.toList = .error failed ∧
        failure = ⟨failed.1, text.length - failed.2⟩ := by
      rw [tokenize] at h
      cases hscan : scan text.toList with
      | ok tokens =>
        rw [hscan] at h
        cases h
      | error failed =>
        rw [hscan] at h
        cases h
        exact ⟨failed, rfl, rfl⟩
    obtain ⟨before, c, rest, tokens, htext, rfl, hscans, hblank, hfault⟩ :=
      exists_of_scan_eq_error hscan
    have hlength : text.length = before.length + (rest.length + 1) := by
      rw [← String.length_toList, htext, List.length_append, List.length_cons]
    have hposition : failure.position = before.length := by
      rw [hfailure]
      simp only [List.length_cons]
      omega
    rw [hposition, htext]
    refine ⟨by omega, ⟨tokens, ?_⟩, ⟨c, by simp, hblank, ?_⟩, failure.fault.message_ne⟩
    · rw [tokenize_eq_ok_iff, String.toList_ofList, List.take_left]
      exact hscans
    · rw [← List.drop_drop, List.drop_left, hfailure]
      exact hfault
  · rw [tokenize, String.toList_ofList, scan_fault hblank hfault, ← String.length_toList,
      String.toList_ofList]
    simp [Except.mapError]
  · obtain ⟨lexeme, value, after, htext, hvalue, hread⟩ := exists_numeral_of_beginsNumber hnumber
    exact ⟨lexeme, value, after, htext, hvalue, readToken_eq_ok_iff.mpr hread⟩

/-- A literal that is not closed fails at its quote, although an operator stands before it. -/
theorem failures_of_tokenize_of_open_quote :
    tokenize "x ^ 'y" = .error ⟨.unterminated, 4⟩ ∧ (∃ tokens, tokenize "x ^ " = .ok tokens) ∧
      FaultAt '\'' ['y'] .unterminated := by
  have h : tokenize "x ^ 'y" = .error ⟨.unterminated, 4⟩ := by with_unfolding_all rfl
  obtain ⟨-, hbefore, ⟨c, hc, -, hfault⟩, -⟩ := failures_of_tokenize.1 _ _ h
  obtain rfl : '\'' = c := Option.some.inj hc
  exact ⟨h, hbefore, hfault⟩

end SheetFormula.Formula

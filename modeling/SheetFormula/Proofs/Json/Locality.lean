import SheetFormula.Json.Reader
import SheetFormula.Proofs.Text.Runs
import Mathlib.Data.List.Basic
import Mathlib.Data.Nat.Notation
import Mathlib.Tactic.Common

/-!
# JSON inside of JSON

The reader of values looks no further than at the character behind a value. What a text describes on
its own it therefore describes as well where it stands in an object or an array, with a comma or the
closing brace behind it; and it does not matter how much more fuel there is, or how much deeper
arrays and objects may nest.

## Main definitions

* `SheetFormula.Json.Ends` — what may stand behind a value.
* `SheetFormula.Json.readWithin?` — the value that takes up a whole text and nests no deeper than
  some limit.

## Main results

* `SheetFormula.Json.readNumber?_append`, `SheetFormula.Json.readString?_append`,
  `SheetFormula.Json.readValue_append` — values are read alike before what may stand behind them.
* `SheetFormula.Json.exists_readValue_of_readWithin?` — what a text describes, where it stands in
  another one.
* `SheetFormula.Json.read?_of_readWithin?` — what it describes on its own.
-/

set_option relaxedAutoImplicit false
set_option autoImplicit false

namespace SheetFormula.Json

open SheetFormula.Number (takeSign)

/-! ## What stands behind a value -/

/-- Behind a value stands a comma, a closing brace, or nothing. -/
def Ends (tail : List Char) : Prop :=
  ∀ d ∈ tail.head?, d = ',' ∨ d = '\x7d'

variable {tail : List Char}

/-- What stands behind a value does not go on with a run inside of it. -/
lemma Ends.of_kind (h : Ends tail) {p : Char → Bool} (hcomma : p ',' = false)
    (hbrace : p '\x7d' = false) : ∀ d ∈ tail.head?, p d = false := by
  intro d hd
  rcases h d hd with rfl | rfl
  · exact hcomma
  · exact hbrace

/-- Space is skipped up to what stands behind a value. -/
lemma Ends.skipSpace_append (h : Ends tail) (text : List Char) :
    skipSpace (text ++ tail) = skipSpace text ++ tail :=
  Text.dropWhile_append_of_head (h.of_kind rfl rfl) text

/-! ## Numbers -/

/-- The parts of a number behind its minus sign, if there is one. -/
def readUnsigned? (negative : Bool) (unsigned : List Char) : Option (NumberText × List Char) := do
  let whole := unsigned.takeWhile Char.isDigit
  if whole = [] ∨ (whole.head? = some '0' ∧ whole.tail ≠ []) then none
  else
    let (fraction, afterFraction) ← readFraction? (unsigned.dropWhile Char.isDigit)
    let (exponent, rest) ← readExponent? afterFraction
    return ({ negative, whole, fraction, exponent }, rest)

/-- A number without a minus sign is not negative. -/
lemma readNumberText?_of_ne {c : Char} (hc : c ≠ '-') (text : List Char) :
    readNumberText? (c :: text) = readUnsigned? false (c :: text) := by
  unfold readNumberText?
  split
  next negative unsigned hsign =>
    split at hsign
    next heq => exact absurd (List.cons.inj heq).1 hc
    next =>
      cases hsign
      rfl

section Numbers

variable (htail : Ends tail)

include htail

/-- A sign, or none, stays as it is. -/
lemma takeSign_append (text : List Char) :
    takeSign (text ++ tail) = ((takeSign text).1, (takeSign text).2 ++ tail) := by
  refine Number.takeSign_append_of_head (fun d hd => ?_) text
  rcases htail d hd with rfl | rfl <;> decide

/-- A fraction, or none, stays as it is. -/
lemma readFraction?_append {text rest : List Char} {fraction : Option (List Char)}
    (h : readFraction? text = some (fraction, rest)) :
    readFraction? (text ++ tail) = some (fraction, rest ++ tail) := by
  have hdigit := htail.of_kind (p := Char.isDigit) rfl rfl
  unfold readFraction? at h
  split at h
  next text =>
    dsimp only at h
    split_ifs at h with hdigits
    cases h
    simp only [List.cons_append, readFraction?, Text.takeWhile_append_of_head hdigit,
      Text.dropWhile_append_of_head hdigit, if_neg hdigits]
  next hpoint =>
    cases h
    have hpoint' : ∀ more, text ++ tail ≠ '.' :: more := by
      intro more hmore
      cases text with
      | nil => rcases htail '.' (by rw [show tail = _ from hmore]; rfl) with h | h <;> cases h
      | cons c text =>
        obtain ⟨rfl, -⟩ := List.cons.inj hmore
        exact hpoint text rfl
    unfold readFraction?
    split
    next heq => exact absurd heq (hpoint' _)
    next => rfl

/-- An exponent, or none, stays as it is. -/
lemma readExponent?_append {text rest : List Char} {exponent : Option Int}
    (h : readExponent? text = some (exponent, rest)) :
    readExponent? (text ++ tail) = some (exponent, rest ++ tail) := by
  have hdigit := htail.of_kind (p := Char.isDigit) rfl rfl
  cases text with
  | nil =>
    cases h
    cases tail with
    | nil => rfl
    | cons d tail => rcases htail d rfl with rfl | rfl <;> rfl
  | cons mark text =>
    rw [List.cons_append]
    simp only [readExponent?, takeSign_append htail, Text.takeWhile_append_of_head hdigit,
      Text.dropWhile_append_of_head hdigit] at h ⊢
    split_ifs at h ⊢
    all_goals
      cases h
      rfl

/-- The parts of a number behind its sign stay as they are. -/
lemma readUnsigned?_append {negative : Bool} {text rest : List Char} {number : NumberText}
    (h : readUnsigned? negative text = some (number, rest)) :
    readUnsigned? negative (text ++ tail) = some (number, rest ++ tail) := by
  have hdigit := htail.of_kind (p := Char.isDigit) rfl rfl
  simp only [readUnsigned?, Text.takeWhile_append_of_head hdigit,
    Text.dropWhile_append_of_head hdigit] at h ⊢
  split_ifs at h ⊢ with hwhole
  obtain ⟨⟨fraction, after⟩, hfraction, h⟩ := Option.bind_eq_some_iff.mp h
  obtain ⟨⟨exponent, rest'⟩, hexponent, h⟩ := Option.bind_eq_some_iff.mp h
  cases h
  simp [readFraction?_append htail hfraction, readExponent?_append htail hexponent]

/-- The parts of a number stay as they are. -/
lemma readNumberText?_append {text rest : List Char} {number : NumberText}
    (h : readNumberText? text = some (number, rest)) :
    readNumberText? (text ++ tail) = some (number, rest ++ tail) := by
  cases text with
  | nil => cases h
  | cons c text =>
    rw [List.cons_append]
    by_cases hminus : c = '-'
    · subst hminus
      change readUnsigned? true text = some (number, rest) at h
      exact readUnsigned?_append htail h
    · rw [readNumberText?_of_ne hminus] at h ⊢
      exact readUnsigned?_append htail h

/-- A number stays as it is. -/
lemma readNumber?_append {text rest : List Char} {value : Json}
    (h : readNumber? text = some (value, rest)) :
    readNumber? (text ++ tail) = some (value, rest ++ tail) := by
  simp only [readNumber?, Option.bind_eq_bind, Option.bind_eq_some_iff] at h ⊢
  obtain ⟨⟨number, after⟩, hparts, value', hvalue, hsame⟩ := h
  cases hsame
  exact ⟨(number, after ++ tail), readNumberText?_append htail hparts, value, hvalue, rfl⟩

end Numbers

/-! ## Strings -/

/-- Four digits stay as they are. -/
lemma readHex?_append {text rest : List Char} {value : ℕ}
    (h : readHex? text = some (value, rest)) (tail : List Char) :
    readHex? (text ++ tail) = some (value, rest ++ tail) := by
  unfold readHex? at h
  split at h
  next a b c d after =>
    simp only [Option.bind_eq_bind, Option.bind_eq_some_iff] at h
    obtain ⟨a', ha, b', hb, c', hc, d', hd, h⟩ := h
    cases h
    simp [readHex?, ha, hb, hc, hd]
  next => cases h

/-- A numbered escape stays as it is. -/
lemma readUnicode?_append {text rest : List Char} {c : Char}
    (h : readUnicode? text = some (c, rest)) (tail : List Char) :
    readUnicode? (text ++ tail) = some (c, rest ++ tail) := by
  simp only [readUnicode?, Option.bind_eq_bind, Option.bind_eq_some_iff] at h ⊢
  obtain ⟨⟨first, after⟩, hfirst, h⟩ := h
  refine ⟨(first, after ++ tail), readHex?_append hfirst tail, ?_⟩
  dsimp only at h ⊢
  split_ifs at h ⊢
  · split at h
    next half =>
      obtain ⟨⟨second, rest'⟩, hsecond, h⟩ := Option.bind_eq_some_iff.mp h
      dsimp only at h
      split_ifs at h with hrange
      obtain ⟨rfl, rfl⟩ := Prod.mk.inj (Option.some.inj h)
      simp only [List.cons_append, readHex?_append hsecond tail, Option.bind_some, if_pos hrange]
      rfl
    next => cases h
  · cases h
    rfl

/-- An escape stays as it is. -/
lemma readEscape?_append {text rest : List Char} {c : Char}
    (h : readEscape? text = some (c, rest)) (tail : List Char) :
    readEscape? (text ++ tail) = some (c, rest ++ tail) := by
  unfold readEscape? at h
  split at h
  case h_9 => exact readUnicode?_append h tail
  case h_10 => cases h
  all_goals
    cases h
    rfl

/-- A string stays as it is, with more fuel as well. -/
lemma stringLoop_append {fuel fuel' : ℕ} (hfuel : fuel ≤ fuel') {read text rest : List Char}
    {value : String} (h : stringLoop fuel read text = some (value, rest)) (tail : List Char) :
    stringLoop fuel' read (text ++ tail) = some (value, rest ++ tail) := by
  induction fuel generalizing fuel' read text with
  | zero => cases text <;> cases h
  | succ fuel ih =>
    obtain ⟨fuel', rfl⟩ : ∃ less, fuel' = less + 1 := ⟨fuel' - 1, by omega⟩
    cases text with
    | nil => cases h
    | cons c text =>
      rw [List.cons_append, stringLoop]
      rw [stringLoop] at h
      split_ifs at h ⊢
      · cases h
        rfl
      · split at h
        next escape after hescape =>
          rw [readEscape?_append hescape tail]
          exact ih (Nat.le_of_succ_le_succ hfuel) h
        next => cases h
      · exact ih (Nat.le_of_succ_le_succ hfuel) h

/-- **A string stays as it is**, whatever follows it. -/
theorem readString?_append {text rest : List Char} {value : String}
    (h : readString? text = some (value, rest)) (tail : List Char) :
    readString? (text ++ tail) = some (value, rest ++ tail) :=
  stringLoop_append (by simp) h tail

/-! ## Values -/

/-- A number begins with a digit or a minus sign. -/
lemma exists_of_readNumber? {text rest : List Char} {value : Json}
    (h : readNumber? text = some (value, rest)) :
    ∃ c more, text = c :: more ∧ (c = '-' ∨ c.isDigit = true) := by
  obtain ⟨⟨number, after⟩, hparts, -⟩ := Option.bind_eq_some_iff.mp h
  cases text with
  | nil => cases hparts
  | cons c text =>
    refine ⟨c, text, rfl, ?_⟩
    by_contra hc
    obtain ⟨hminus, hdigit⟩ := not_or.mp hc
    rw [readNumberText?_of_ne hminus, readUnsigned?, List.takeWhile_cons_of_neg hdigit] at hparts
    simp at hparts

/-- What begins with a digit or a minus sign is read as a number. -/
lemma readValue_of_number {c : Char} (hc : c = '-' ∨ c.isDigit = true) (fuel nesting : ℕ)
    (text : List Char) : readValue (fuel + 1) nesting (c :: text) = readNumber? (c :: text) := by
  rw [readValue.eq_def]
  dsimp only
  split
  -- the other values begin with other characters
  next heq => cases heq
  iterate 6 next heq =>
    obtain ⟨rfl, -⟩ := List.cons.inj heq
    exact absurd hc (by decide)
  next => rfl

/-- An array ends at once, or it has items. -/
lemma readValue_bracket (fuel nesting : ℕ) (text : List Char) :
    readValue (fuel + 1) (nesting + 1) ('[' :: text) =
      if (skipSpace text).head? = some ']' then some (.array [], (skipSpace text).tail)
      else (readItems fuel nesting (skipSpace text)).map fun read => (.array read.1, read.2) := by
  rw [readValue]
  split
  next heq => rw [heq]; rfl
  next hne =>
    rw [if_neg]
    rintro hhead
    obtain ⟨rest, hrest⟩ := List.head?_eq_some_iff.mp hhead
    exact hne rest hrest

/-- An object ends at once, or it has fields. -/
lemma readValue_brace (fuel nesting : ℕ) (text : List Char) :
    readValue (fuel + 1) (nesting + 1) ('\x7b' :: text) =
      if (skipSpace text).head? = some '\x7d' then some (.object [], (skipSpace text).tail)
      else (readFields fuel nesting (skipSpace text)).map
        fun read => (.object (Fields.ofList read.1), read.2) := by
  rw [readValue]
  split
  next heq => rw [heq]; rfl
  next hne =>
    rw [if_neg]
    rintro hhead
    obtain ⟨rest, hrest⟩ := List.head?_eq_some_iff.mp hhead
    exact hne rest hrest

/-- A field has a colon between its name and its value, and others behind a comma. -/
lemma readFields_quote {fuel nesting : ℕ} {text after more : List Char} {name : String}
    (hname : readString? text = some (name, after)) (hcolon : skipSpace after = ':' :: more) :
    readFields (fuel + 1) nesting ('"' :: text) =
      match readValue fuel nesting (skipSpace more) with
      | none => none
      | some (value, rest) =>
        match skipSpace rest with
        | '\x7d' :: rest => some ([(name, value)], rest)
        | ',' :: rest =>
          (readFields fuel nesting (skipSpace rest)).map fun read =>
            ((name, value) :: read.1, read.2)
        | _ => none := by
  rw [readFields, hname]
  dsimp only
  rw [hcolon]
  rfl

/-- Items begin with a character. -/
lemma ne_nil_of_readItems {fuel nesting : ℕ} {text : List Char} {read : List Json × List Char}
    (h : readItems fuel nesting text = some read) : text ≠ [] := by
  rintro rfl
  cases fuel with
  | zero => simp [readItems] at h
  | succ fuel =>
    have hvalue : readValue fuel nesting [] = none := by cases fuel <;> rw [readValue]
    simp [readItems, hvalue] at h

/-- Fields begin with a character. -/
lemma ne_nil_of_readFields {fuel nesting : ℕ} {text : List Char}
    {read : List (String × Json) × List Char} (h : readFields fuel nesting text = some read) :
    text ≠ [] := by
  rintro rfl
  cases fuel <;> simp [readFields] at h

variable (tail) in
/-- What is read with some fuel is read with more fuel as well, where arrays and objects may nest
deeper, and before what may stand behind a value. -/
structure ReadsOn (fuel : ℕ) : Prop where
  value {fuel' nesting nesting' : ℕ} {text rest : List Char} {value : Json} (hfuel : fuel ≤ fuel')
    (hnesting : nesting ≤ nesting') (h : readValue fuel nesting text = some (value, rest)) :
    readValue fuel' nesting' (text ++ tail) = some (value, rest ++ tail)
  items {fuel' nesting nesting' : ℕ} {text rest : List Char} {items : List Json}
    (hfuel : fuel ≤ fuel') (hnesting : nesting ≤ nesting')
    (h : readItems fuel nesting text = some (items, rest)) :
    readItems fuel' nesting' (text ++ tail) = some (items, rest ++ tail)
  fields {fuel' nesting nesting' : ℕ} {text rest : List Char} {fields : List (String × Json)}
    (hfuel : fuel ≤ fuel') (hnesting : nesting ≤ nesting')
    (h : readFields fuel nesting text = some (fields, rest)) :
    readFields fuel' nesting' (text ++ tail) = some (fields, rest ++ tail)

namespace ReadsOn

variable {fuel fuel' nesting nesting' : ℕ} {text rest : List Char}

/-- Without fuel nothing is read. -/
lemma zero : ReadsOn tail 0 where
  value _ _ h := by simp [readValue] at h
  items _ _ h := by simp [readItems] at h
  fields _ _ h := by simp [readFields] at h

/-- What stands between brackets or braces is read alike before what may stand behind a value, if
its parts are. -/
lemma enclosed_append {α : Type} (wrap : α → Json) {empty : Json} {close : Char}
    {inside inside' : List Char → Option (α × List Char)}
    (hinside : ∀ {read rest}, inside text = some (read, rest) →
      text ≠ [] ∧ inside' (text ++ tail) = some (read, rest ++ tail)) {value : Json}
    (h : (if text.head? = some close then some (empty, text.tail)
      else (inside text).map fun read => (wrap read.1, read.2)) = some (value, rest)) :
    (if (text ++ tail).head? = some close then some (empty, (text ++ tail).tail)
      else (inside' (text ++ tail)).map fun read => (wrap read.1, read.2)) =
        some (value, rest ++ tail) := by
  split_ifs at h with hempty
  · obtain ⟨after, rfl⟩ := List.head?_eq_some_iff.mp hempty
    cases h
    simp
  · obtain ⟨⟨read, after⟩, hread, h⟩ := Option.map_eq_some_iff.mp h
    cases h
    obtain ⟨hne, hread'⟩ := hinside hread
    rw [List.head?_append_of_ne_nil _ hne, if_neg hempty, hread', Option.map_some]

/-- The step for arrays and objects. -/
lemma value_succ (ih : ReadsOn tail fuel) (htail : Ends tail) {value : Json}
    (hfuel : fuel + 1 ≤ fuel') (hnesting : nesting ≤ nesting')
    (h : readValue (fuel + 1) nesting text = some (value, rest)) :
    readValue fuel' nesting' (text ++ tail) = some (value, rest ++ tail) := by
  obtain ⟨fuel', rfl⟩ : ∃ less, fuel' = less + 1 := ⟨fuel' - 1, by omega⟩
  have hless : fuel ≤ fuel' := Nat.le_of_succ_le_succ hfuel
  rw [readValue.eq_def] at h
  dsimp only at h
  split at h
  next => cases h
  next => cases h; rfl
  next => cases h; rfl
  next => cases h; rfl
  next text =>
    obtain ⟨⟨text', rest'⟩, hstring, h⟩ := Option.map_eq_some_iff.mp h
    cases h
    rw [List.cons_append, readValue, readString?_append hstring]
    rfl
  next text =>
    cases nesting with
    | zero => cases h
    | succ nesting =>
      obtain ⟨nesting', rfl⟩ : ∃ less, nesting' = less + 1 := ⟨nesting' - 1, by omega⟩
      change readValue (fuel + 1) (nesting + 1) ('[' :: text) = _ at h
      rw [readValue_bracket] at h
      rw [List.cons_append, readValue_bracket, htail.skipSpace_append]
      exact enclosed_append Json.array (fun hitems =>
        ⟨ne_nil_of_readItems hitems, ih.items hless (Nat.le_of_succ_le_succ hnesting) hitems⟩) h
  next text =>
    cases nesting with
    | zero => cases h
    | succ nesting =>
      obtain ⟨nesting', rfl⟩ : ∃ less, nesting' = less + 1 := ⟨nesting' - 1, by omega⟩
      change readValue (fuel + 1) (nesting + 1) ('\x7b' :: text) = _ at h
      rw [readValue_brace] at h
      rw [List.cons_append, readValue_brace, htail.skipSpace_append]
      exact enclosed_append (fun read => Json.object (Fields.ofList read)) (fun hfields =>
        ⟨ne_nil_of_readFields hfields, ih.fields hless (Nat.le_of_succ_le_succ hnesting) hfields⟩) h
  next =>
    obtain ⟨c, more, rfl, hc⟩ := exists_of_readNumber? h
    rw [List.cons_append, readValue_of_number hc]
    exact readNumber?_append htail h

/-- The step for the items of an array. -/
lemma items_succ (ih : ReadsOn tail fuel) (htail : Ends tail) {items : List Json}
    (hfuel : fuel + 1 ≤ fuel') (hnesting : nesting ≤ nesting')
    (h : readItems (fuel + 1) nesting text = some (items, rest)) :
    readItems fuel' nesting' (text ++ tail) = some (items, rest ++ tail) := by
  obtain ⟨fuel', rfl⟩ : ∃ less, fuel' = less + 1 := ⟨fuel' - 1, by omega⟩
  have hless : fuel ≤ fuel' := Nat.le_of_succ_le_succ hfuel
  rw [readItems] at h ⊢
  split at h
  next => cases h
  next item after hitem =>
    rw [ih.value hless hnesting hitem]
    dsimp only
    rw [htail.skipSpace_append]
    split at h
    next hclosed =>
      cases h
      rw [hclosed]
      rfl
    next more hcomma =>
      obtain ⟨⟨others, after'⟩, hothers, h⟩ := Option.map_eq_some_iff.mp h
      cases h
      rw [hcomma]
      change (readItems fuel' nesting' (skipSpace (more ++ tail))).map _ = _
      rw [htail.skipSpace_append, ih.items hless hnesting hothers, Option.map_some]
    next => cases h

/-- The step for the fields of an object. -/
lemma fields_succ (ih : ReadsOn tail fuel) (htail : Ends tail) {fields : List (String × Json)}
    (hfuel : fuel + 1 ≤ fuel') (hnesting : nesting ≤ nesting')
    (h : readFields (fuel + 1) nesting text = some (fields, rest)) :
    readFields fuel' nesting' (text ++ tail) = some (fields, rest ++ tail) := by
  obtain ⟨fuel', rfl⟩ : ∃ less, fuel' = less + 1 := ⟨fuel' - 1, by omega⟩
  have hless : fuel ≤ fuel' := Nat.le_of_succ_le_succ hfuel
  rw [readFields.eq_def] at h
  dsimp only at h
  split at h
  next text =>
    split at h
    next => cases h
    next name after hname =>
      split at h
      next more hcolon =>
        have hcolon' : skipSpace (after ++ tail) = ':' :: (more ++ tail) := by
          rw [htail.skipSpace_append, hcolon, List.cons_append]
        rw [List.cons_append, readFields_quote (readString?_append hname tail) hcolon',
          htail.skipSpace_append]
        split at h
        next => cases h
        next value after' hvalue =>
          rw [ih.value hless hnesting hvalue]
          dsimp only
          rw [htail.skipSpace_append]
          split at h
          next hclosed =>
            cases h
            rw [hclosed]
            rfl
          next more' hcomma =>
            obtain ⟨⟨others, after''⟩, hothers, h⟩ := Option.map_eq_some_iff.mp h
            cases h
            rw [hcomma]
            change (readFields fuel' nesting' (skipSpace (more' ++ tail))).map _ = _
            rw [htail.skipSpace_append, ih.fields hless hnesting hothers, Option.map_some]
          next => cases h
      next => cases h
  next => cases h

end ReadsOn

/-- **What is read goes on being read**, by induction on the fuel. -/
theorem readsOn (htail : Ends tail) (fuel : ℕ) : ReadsOn tail fuel := by
  induction fuel with
  | zero => exact .zero
  | succ fuel ih => exact ⟨ih.value_succ htail, ih.items_succ htail, ih.fields_succ htail⟩

/-! ## Texts that describe a value -/

/-- The value that takes up a whole text, if arrays and objects in it nest no deeper than some
limit. -/
def readWithin? (nesting : ℕ) (text : List Char) : Option Json :=
  match readValue ((skipSpace text).length + 1) nesting (skipSpace text) with
  | some (value, rest) => if skipSpace rest = [] then some value else none
  | none => none

/-- What a text describes takes it up but for space. -/
lemma readWithin?_eq_some {nesting : ℕ} {text : List Char} {value : Json} :
    readWithin? nesting text = some value ↔
      ∃ rest, readValue ((skipSpace text).length + 1) nesting (skipSpace text) =
          some (value, rest) ∧
        skipSpace rest = [] := by
  unfold readWithin?
  split
  next value' rest hvalue =>
    rw [hvalue]
    simp [and_comm]
  next hvalue =>
    rw [hvalue]
    simp

/-- A value that is read is read with more fuel and within more levels, too. -/
lemma readValue_mono {fuel fuel' nesting nesting' : ℕ} (hfuel : fuel ≤ fuel')
    (hnesting : nesting ≤ nesting') {text rest : List Char} {value : Json}
    (h : readValue fuel nesting text = some (value, rest)) :
    readValue fuel' nesting' text = some (value, rest) := by
  have hend : Ends [] := nofun
  have hread := (readsOn hend fuel).value hfuel hnesting h
  rwa [List.append_nil, List.append_nil] at hread

/-- What nests within some levels nests within more of them. -/
lemma readWithin?_mono {nesting nesting' : ℕ} (hnesting : nesting ≤ nesting') {text : List Char}
    {value : Json} (h : readWithin? nesting text = some value) :
    readWithin? nesting' text = some value := by
  obtain ⟨rest, hvalue, hrest⟩ := readWithin?_eq_some.mp h
  exact readWithin?_eq_some.mpr ⟨rest, readValue_mono (Nat.le_refl _) hnesting hvalue, hrest⟩

/-- **What a text describes is read on its own** if it nests no deeper than on its own it may. -/
theorem read?_of_readWithin? {text : List Char} {value : Json}
    (h : readWithin? nestingLimit text = some value) : read? text = some value := by
  obtain ⟨rest, hvalue, hrest⟩ := readWithin?_eq_some.mp h
  have hlength : (skipSpace text).length ≤ text.length := (List.dropWhile_sublist _).length_le
  rw [read?, readHead?, readValue_mono (Nat.succ_le_succ hlength) (Nat.le_refl _) hvalue]
  exact if_pos hrest

/-- **What a text describes is read inside of another text**, before what may stand behind it. -/
theorem exists_readValue_of_readWithin? {nesting : ℕ} {text : List Char} {value : Json}
    (h : readWithin? nesting text = some value) (htail : Ends tail) {fuel : ℕ}
    (hfuel : (skipSpace text).length + 1 ≤ fuel) :
    ∃ rest, readValue fuel nesting (skipSpace text ++ tail) = some (value, rest) ∧
      skipSpace rest = tail := by
  obtain ⟨rest, hvalue, hrest⟩ := readWithin?_eq_some.mp h
  refine ⟨rest ++ tail, (readsOn htail _).value hfuel (Nat.le_refl _) hvalue, ?_⟩
  rw [htail.skipSpace_append, hrest, List.nil_append]

end SheetFormula.Json

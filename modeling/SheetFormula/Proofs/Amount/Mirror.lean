import SheetFormula.Proofs.Amount.Dates
import SheetFormula.Proofs.Amount.ForeignDigits

/-!
# Amounts with their marks exchanged

If the points and commas of a text are exchanged, and the two marks of the format with them, the
text is read as the same number, or as none as before. The reader looks for points first in several
places, and it leaves dates with points but none with commas to the readers of dates. Neither makes
a difference: marks are only ever compared with each other, and no amount looks like a date.

## Main definitions

* `SheetFormula.otherMark` — the exchange of point and comma.
* `SheetFormula.mirrored`, `NumberFormat.mirrored`, `Amount.Group.mirrored` — texts, formats and
  groups with their marks exchanged.

## Main results

* `SheetFormula.Amount.three_le_of_parts?` — how many digits stand between two marks of an amount.
* `SheetFormula.Amount.readTrimmed?_eq_none_of_looksLikeDate` — no amount looks like a date.
* `SheetFormula.Amount.decimalMark?_mirrored` — the decimal mark is exchanged with the others.
* `SheetFormula.Amount.read_mirrored` — a text with its marks exchanged is read alike.
-/

set_option relaxedAutoImplicit false
set_option autoImplicit false

namespace SheetFormula

open SheetFormula.Text (Shape isBlank isDecimalDigit trim trimStart trimEnd trim_trim)

/-! ## Exchanging the marks -/

/-- The other one of the two marks; any other character stays. -/
def otherMark (c : Char) : Char :=
  if c = '.' then ',' else if c = ',' then '.' else c

/-- A text with its points and commas exchanged. -/
def mirrored (text : String) : String :=
  String.ofList (text.toList.map otherMark)

/-- A number format with its marks exchanged. -/
def NumberFormat.mirrored (format : NumberFormat) : NumberFormat :=
  ⟨otherMark format.decimal, otherMark format.thousands⟩

/-- A character that is no mark stays. -/
lemma otherMark_of_ne {c : Char} (hpoint : c ≠ '.') (hcomma : c ≠ ',') : otherMark c = c := by
  rw [otherMark, if_neg hpoint, if_neg hcomma]

/-- What is the same for point and comma does not change when they are exchanged. -/
lemma apply_otherMark {α : Type} (f : Char → α) (h : f '.' = f ',') (c : Char) :
    f (otherMark c) = f c := by
  unfold otherMark
  split_ifs with hpoint hcomma
  · rw [hpoint, h]
  · rw [hcomma, h]
  · rfl

/-- Exchanging the marks twice changes nothing. -/
@[simp] lemma otherMark_otherMark (c : Char) : otherMark (otherMark c) = c := by
  by_cases hpoint : c = '.'
  · rw [hpoint]
    rfl
  · by_cases hcomma : c = ','
    · rw [hcomma]
      rfl
    · rw [otherMark_of_ne hpoint hcomma, otherMark_of_ne hpoint hcomma]

/-- Different characters stay different. -/
lemma otherMark_injective : Function.Injective otherMark :=
  Function.LeftInverse.injective otherMark_otherMark

/-- Exchanging the marks keeps digits. -/
lemma isDigit_otherMark (c : Char) : (otherMark c).isDigit = c.isDigit :=
  apply_otherMark Char.isDigit rfl c

/-- Exchanging the marks keeps white space. -/
lemma isBlank_otherMark (c : Char) : isBlank (otherMark c) = isBlank c :=
  apply_otherMark isBlank rfl c

/-- A digit is no mark. -/
lemma otherMark_of_isDigit {c : Char} (h : c.isDigit = true) : otherMark c = c := by
  refine otherMark_of_ne ?_ ?_ <;> rintro rfl <;> exact absurd h (by decide)

/-- The marks of a text do not matter for the white space that is cut off. -/
lemma dropWhile_map_otherMark (text : List Char) :
    (text.map otherMark).dropWhile isBlank = (text.dropWhile isBlank).map otherMark := by
  rw [List.dropWhile_map]
  congr 2
  exact funext isBlank_otherMark

/-- White space is cut off alike. -/
lemma trim_map_otherMark (text : List Char) :
    trim (text.map otherMark) = (trim text).map otherMark := by
  rw [trim, trim, trimStart, trimStart, dropWhile_map_otherMark, trimEnd, trimEnd, ← List.map_reverse,
    dropWhile_map_otherMark, List.map_reverse]

namespace Amount

/-! ## Groups -/

/-- A group that ends with the other mark. -/
def Group.mirrored (group : Group) : Group :=
  ⟨group.digits, group.separator.map otherMark⟩

/-- The groups of a text whose marks are exchanged end with the other marks. -/
lemma groupsFrom_map_otherMark (digits : List Char) (inSpace : Bool) (text : List Char) :
    groupsFrom digits inSpace (text.map otherMark) =
      (groupsFrom digits inSpace text).map Group.mirrored := by
  induction text generalizing digits inSpace with
  | nil => rfl
  | cons c rest ih =>
    rw [List.map_cons, groupsFrom, groupsFrom, isDigit_otherMark, isBlank_otherMark]
    split_ifs with hdigit hblank hspace
    · rw [ih, otherMark_of_isDigit hdigit]
    · exact ih digits true
    · rw [ih]
      rfl
    · rw [ih]
      rfl

/-- The digits of groups stay. -/
lemma map_digits_mirrored (all : List Group) :
    (all.map Group.mirrored).map Group.digits = all.map Group.digits := by
  simp [Group.mirrored]

/-- The separators of groups are exchanged. -/
lemma separators_mirrored (all : List Group) :
    separators (all.map Group.mirrored) = (separators all).map otherMark := by
  rw [separators, separators, List.filterMap_map, List.map_filterMap]
  rfl

/-- Gaps between separators stay. -/
lemma hasInnerGap_mirrored (all : List Group) :
    hasInnerGap (all.map Group.mirrored) = hasInnerGap all := by
  rw [hasInnerGap, hasInnerGap, ← List.map_drop, ← List.map_dropLast, List.any_map]
  rfl

/-! ## The decimal mark -/

/-- The digits behind a mark stay. -/
lemma digitsBehind?_mirrored (mark : Char) (all : List Group) :
    digitsBehind? (otherMark mark) (all.map Group.mirrored) = digitsBehind? mark all := by
  induction all with
  | nil => rfl
  | cons group rest ih =>
    cases rest with
    | nil => rfl
    | cons next rest =>
      have hsame : group.separator.map otherMark = some (otherMark mark) ↔
          group.separator = some mark := by
        rw [← Option.map_some, (Option.map_injective otherMark_injective).eq_iff]
      simp only [List.map_cons, digitsBehind?, Group.mirrored, hsame]
      rw [← ih]
      rfl

/-- A mark occurs as often as the other one does after the exchange. -/
lemma count_otherMark (mark : Char) (marks : List Char) :
    (marks.map otherMark).count (otherMark mark) = marks.count mark :=
  List.count_map_of_injective marks otherMark otherMark_injective mark

/-- A mark is found from the end where the other one is. -/
lemma find?_map_otherMark (marks : List Char) :
    (marks.map otherMark).find? (· ≠ ' ') = (marks.find? (· ≠ ' ')).map otherMark := by
  rw [List.find?_map]
  congr 2
  funext c
  exact apply_otherMark (fun c => decide (c ≠ ' ')) rfl c

/-- **The decimal mark is exchanged with the others.**

**Proof sketch.** Counts of points become counts of commas, and the other way round. If both occur,
the last mark stays the last. If one occurs once, it is compared with the grouping mark of the
format, which is exchanged as well. -/
theorem decimalMark?_mirrored (format : NumberFormat) (all : List Group) :
    decimalMark? format.mirrored (all.map Group.mirrored) =
      (decimalMark? format all).map otherMark := by
  have hpoints : (separators (all.map Group.mirrored)).count '.' = (separators all).count ',' := by
    rw [separators_mirrored]
    exact count_otherMark ',' (separators all)
  have hcommas : (separators (all.map Group.mirrored)).count ',' = (separators all).count '.' := by
    rw [separators_mirrored]
    exact count_otherMark '.' (separators all)
  have hspace : ' ' ∈ separators (all.map Group.mirrored) ↔ ' ' ∈ separators all := by
    rw [separators_mirrored]
    exact List.mem_map_of_injective (a := ' ') otherMark_injective
  have hgrouping : ∀ mark, otherMark mark = format.mirrored.thousands ↔ mark = format.thousands :=
    fun mark => otherMark_injective.eq_iff
  simp only [decimalMark?, hpoints, hcommas, hspace]
  by_cases hboth : 0 < (separators all).count '.' ∧ 0 < (separators all).count ','
  · rw [if_pos hboth, if_pos hboth.symm, separators_mirrored, ← List.map_reverse,
      find?_map_otherMark]
  rw [if_neg hboth, if_neg (mt And.symm hboth), Nat.add_comm]
  by_cases hone : (separators all).count '.' + (separators all).count ',' = 1
  · -- the mark that occurs is exchanged
    have hmark : (if 0 < (separators all).count ',' then '.' else ',') =
        otherMark (if 0 < (separators all).count '.' then '.' else ',') := by
      split_ifs with hcomma hpoint hpoint
      · exact absurd ⟨hpoint, hcomma⟩ hboth
      · rfl
      · rfl
      · omega
    rw [if_neg (not_not.mpr hone), if_neg (not_not.mpr hone)]
    simp only [hmark, hgrouping, digitsBehind?_mirrored]
    split_ifs <;> rfl
  · rw [if_pos hone, if_pos hone]
    rfl

/-! ## The groups before the decimal mark -/

/-- Two separators agree if the exchanged ones do. -/
lemma agree_otherMark (first second : Char) :
    agree (otherMark first) (otherMark second) = agree first second := by
  have hsame : (otherMark first == otherMark second) = (first == second) := by
    rw [Bool.eq_iff_iff, beq_iff_eq, beq_iff_eq, otherMark_injective.eq_iff]
  rw [agree, agree, hsame, apply_otherMark (· == ' ') rfl, apply_otherMark (· == ' ') rfl]

/-- Separators all agree if the exchanged ones do. -/
lemma allAgree_otherMark (marks : List Char) :
    allAgree (marks.map otherMark) = allAgree marks := by
  induction marks with
  | nil => rfl
  | cons first rest ih =>
    cases rest with
    | nil => rfl
    | cons second rest =>
      rw [List.map_cons] at ih ⊢
      rw [List.map_cons, allAgree, allAgree, ih, agree_otherMark]

/-- Groups stay grouped correctly. -/
lemma wellGrouped_mirrored (all : List Group) :
    wellGrouped (all.map Group.mirrored) = wellGrouped all := by
  match all with
  | [] => rfl
  | [_] => rfl
  | first :: second :: rest =>
    have hagree : allAgree (separators ((first :: second :: rest).map Group.mirrored).dropLast) =
        allAgree (separators (first :: second :: rest).dropLast) := by
      rw [← List.map_dropLast, separators_mirrored, allAgree_otherMark]
    have hthree : ((second :: rest).map Group.mirrored).all (fun group => group.digits.length == 3) =
        (second :: rest).all fun group => group.digits.length == 3 := by
      rw [List.all_map]
      rfl
    simp only [List.map_cons] at hagree hthree
    simp only [List.map_cons, wellGrouped, hagree, hthree]
    rfl

/-- The groups before the decimal mark are exchanged, and the fraction stays. -/
lemma splitAt?_mirrored (mark : Option Char) (all : List Group) :
    splitAt? (mark.map otherMark) (all.map Group.mirrored) =
      (splitAt? mark all).map fun split => (split.1.map Group.mirrored, split.2) := by
  cases mark with
  | none => rfl
  | some mark =>
    have hlast : (all.map Group.mirrored).getLast?.map Group.digits =
        all.getLast?.map Group.digits := by
      rw [List.getLast?_map, Option.map_map]
      rfl
    have hmark : (separators all).getLast?.map otherMark = some (otherMark mark) ↔
        (separators all).getLast? = some mark := by
      rw [← Option.map_some, (Option.map_injective otherMark_injective).eq_iff]
    simp only [Option.map_some, splitAt?, separators_mirrored, count_otherMark, List.getLast?_map,
      hmark]
    rw [List.getLast?_map] at hlast
    split_ifs
    · rw [hlast, ← List.map_dropLast]
      rfl
    · rfl

/-- **A text without sign has the same parts** when its marks are exchanged. -/
theorem parts?_mirrored (format : NumberFormat) (text : List Char) :
    parts? format.mirrored (text.map otherMark) = parts? format text := by
  have hgroups : groups (text.map otherMark) = (groups text).map Group.mirrored :=
    groupsFrom_map_otherMark [] false text
  have hdigits : ∀ all : List Group,
      (all.map Group.mirrored).flatMap Group.digits = all.flatMap Group.digits := by
    intro all
    rw [List.flatMap_def, map_digits_mirrored, ← List.flatMap_def]
  simp only [parts?, hgroups, hasInnerGap_mirrored, decimalMark?_mirrored, splitAt?_mirrored]
  split_ifs
  · rfl
  · cases splitAt? (decimalMark? format (groups text)) (groups text) with
    | none => rfl
    | some split =>
      simp only [Option.map_some, Option.bind_eq_bind, Option.bind_some, hdigits,
        wellGrouped_mirrored]

/-! ## Signs -/

/-- A text begins with a minus sign exactly if it does with its marks exchanged. -/
lemma head?_map_otherMark (text : List Char) :
    (text.map otherMark).head? = some '-' ↔ text.head? = some '-' := by
  rw [List.head?_map, ← (Option.map_injective otherMark_injective).eq_iff (a := text.head?)]
  rfl

/-- What is read of a text that does not begin with a minus sign. -/
lemma readTrimmed?_of_head {text : List Char} (h : text.head? ≠ some '-') (format : NumberFormat) :
    readTrimmed? format text = (parts? format text).map fun (whole, fraction) =>
      Number.ofParts false whole fraction 0 := by
  unfold readTrimmed?
  split
  next negative body hsign =>
    split at hsign
    next => exact absurd rfl h
    next =>
      cases hsign
      rfl

/-- The number behind the sign is read alike. -/
lemma readTrimmed?_mirrored (format : NumberFormat) (text : List Char) :
    readTrimmed? format.mirrored (text.map otherMark) = readTrimmed? format text := by
  by_cases h : text.head? = some '-'
  · obtain ⟨rest, rfl⟩ := List.head?_eq_some_iff.mp h
    have hbody : trimStart (rest.map otherMark) = (trimStart rest).map otherMark :=
      dropWhile_map_otherMark rest
    have hparts := parts?_mirrored format (trimStart rest)
    rw [← hbody] at hparts
    exact congrArg (Option.map _) hparts
  · rw [readTrimmed?_of_head h, readTrimmed?_of_head (mt (head?_map_otherMark text).mp h),
      parts?_mirrored]

/-- A text that does not begin with a minus sign has characters of amounts only, or it is none. -/
lemma hasAmountChars_of_head {text : List Char} (h : text.head? ≠ some '-') :
    hasAmountChars text = (!text.isEmpty && text.all isAmountChar) := by
  unfold hasAmountChars
  split
  next => exact absurd rfl h
  next => rfl

/-- The characters of amounts stay characters of amounts. -/
lemma hasAmountChars_map_otherMark (text : List Char) :
    hasAmountChars (text.map otherMark) = hasAmountChars text := by
  have hall : ∀ run : List Char, (run.map otherMark).all isAmountChar = run.all isAmountChar := by
    intro run
    rw [List.all_map]
    exact congrArg run.all (funext (apply_otherMark isAmountChar rfl))
  by_cases h : text.head? = some '-'
  · obtain ⟨rest, rfl⟩ := List.head?_eq_some_iff.mp h
    change (!(rest.map otherMark).isEmpty && (rest.map otherMark).all isAmountChar) =
      (!rest.isEmpty && rest.all isAmountChar)
    rw [hall, List.isEmpty_map]
  · rw [hasAmountChars_of_head h, hasAmountChars_of_head (mt (head?_map_otherMark text).mp h), hall,
      List.isEmpty_map]

/-! ## Dates -/

/-- **Between two marks of an amount stand at least three digits.** -/
theorem three_le_of_parts? {format : NumberFormat} {c c' : Char}
    (hc : c.isDigit = false ∧ isBlank c = false) (hc' : c'.isDigit = false ∧ isBlank c' = false)
    {before middle behind : List Char} {parts : List Char × List Char}
    (h : parts? format (before ++ c :: (middle ++ c' :: behind)) = some parts) :
    3 ≤ middle.length := by
  have hnone : ∀ d ∈ ([] : List Char), d.isDigit := by simp
  have hspace : false = true → ([] : List Char) = [] := nofun
  obtain ⟨earlier, -, last, -, -, hfirst⟩ := exists_groupsFrom_append hc.1 hc.2 hnone
    hspace before (middle ++ c' :: behind)
  obtain ⟨between, front, inner, hmiddle, -, hsecond⟩ := exists_groupsFrom_append hc'.1 hc'.2 hnone
    hspace middle behind
  have hall : groups (before ++ c :: (middle ++ c' :: behind)) =
      earlier ++ ⟨last, some c⟩ :: (between ++ ⟨inner, some c'⟩ :: groups behind) := by
    rw [groups, hfirst, groups, hsecond]
  -- the digits between the marks are a group that is neither the first one nor the fraction
  have hinner : inner.length = 3 := by
    unfold parts? at h
    dsimp only at h
    split_ifs at h
    obtain ⟨⟨whole, fraction⟩, hsplit, h⟩ := Option.bind_eq_some_iff.mp h
    split_ifs at h with hgroups
    have hne : groups (before ++ c :: (middle ++ c' :: behind)) ≠ [] := groupsFrom_ne_nil [] false _
    rcases exists_of_splitAt? hne hsplit with
      ⟨-, hwhole, -⟩ | ⟨-, fractionGroup, -, -, hwhole, -⟩
    · rw [← hwhole, hall] at hgroups
      exact (length_of_wellGrouped hgroups.1 (.inr (by simp))).2 ⟨inner, some c'⟩ (by simp)
    · obtain ⟨init, final, hbehind⟩ :=
        (List.eq_nil_or_concat (groups behind)).resolve_left (groupsFrom_ne_nil _ _ _)
      have hconcat : (earlier ++ ⟨last, some c⟩ :: (between ++ ⟨inner, some c'⟩ :: init)) ++
          [final] = whole ++ [fractionGroup] := by
        rw [← hwhole, hall, hbehind]
        simp
      obtain rfl := (List.append_inj' hconcat rfl).1
      exact (length_of_wellGrouped hgroups.1 (.inr (by simp))).2 ⟨inner, some c'⟩ (by simp)
  have hlength := congrArg List.length hmiddle
  simp only [List.reverse_nil, List.nil_append, List.length_append] at hlength
  omega

/-- A text that looks like a date with the day first begins with digits, and at most two characters
stand between its marks. -/
lemma exists_of_dayFirst {mark : Char} {text : List Char} (h : (dayFirstShape mark).spans text) :
    ∃ c day month behind, text = c :: day ++ mark :: (month ++ mark :: behind) ∧
      isDecimalDigit c = true ∧ month.length ≤ 2 := by
  simp only [Shape.spans_iff, dayFirstShape, Shape.mem_sequence_cons, Shape.mem_oneOrTwoDigits,
    Shape.mem_char] at h
  obtain ⟨_, ⟨day, hday, hdigits, rfl⟩, _, rfl, _, ⟨month, hmonth, -, rfl⟩, behind, rfl, -⟩ := h
  obtain ⟨c, day, rfl⟩ := List.exists_cons_of_length_pos hday.1
  exact ⟨c, day, month, behind, rfl, hdigits c (by simp), hmonth.2⟩

/-- A text that looks like a date with the year first begins with a digit and has a hyphen or a
slash. -/
lemma exists_of_yearFirst {text : List Char} (h : yearFirstShape.begins text) :
    ∃ c rest mark, text = c :: rest ∧ isDecimalDigit c = true ∧ mark ∈ rest ∧
      (mark = '-' ∨ mark = '/') := by
  simp only [Shape.begins_iff, yearFirstShape, Shape.mem_sequence_cons, Shape.mem_oneOrTwoDigits,
    Shape.digits, Shape.mem_times, Shape.mem_one] at h
  obtain ⟨-, _, ⟨year, hyear, hdigits, rfl⟩, _, ⟨first, -, rfl⟩, _, ⟨month, -, -, rfl⟩, behind,
    ⟨mark, hmark, rfl⟩, -⟩ := h
  obtain ⟨c, year, rfl⟩ := List.exists_cons_of_length_eq_add_one hyear
  exact ⟨c, _, mark, rfl, hdigits c (by simp), by simp, by simpa using hmark⟩

/-- **No amount looks like a date**, in whatever format. -/
theorem readTrimmed?_eq_none_of_looksLikeDate {text : List Char} (hdate : looksLikeDate text = true)
    (hchars : hasAmountChars (trim text) = true) (format : NumberFormat) :
    readTrimmed? format (trim text) = none := by
  have hminus : ∀ {c : Char}, isDecimalDigit c = true → c ≠ '-' := by
    rintro c hc rfl
    exact absurd hc (by decide)
  simp only [looksLikeDate, Bool.or_eq_true] at hdate
  rcases hdate with (hpoints | hslashes) | hyear
  · obtain ⟨c, day, month, behind, htext, hc, hmonth⟩ := exists_of_dayFirst hpoints
    rw [htext, readTrimmed?_of_head (by simpa using hminus hc), Option.map_eq_none_iff]
    by_contra hparts
    obtain ⟨parts, hparts⟩ := Option.ne_none_iff_exists'.mp hparts
    have hthree := three_le_of_parts? ⟨rfl, rfl⟩ ⟨rfl, rfl⟩ hparts
    omega
  · obtain ⟨c, day, month, behind, htext, -⟩ := exists_of_dayFirst hslashes
    rw [hasAmountChars_of_mark (.inl rfl) (by simp [htext])] at hchars
    cases hchars
  · obtain ⟨c, rest, mark, htext, hc, hmem, hmark⟩ := exists_of_yearFirst hyear
    rw [htext, hasAmountChars_of_head (by simpa using hminus hc), Bool.and_eq_true,
      List.all_eq_true] at hchars
    have hchar := hchars.2 mark (List.mem_cons_of_mem _ hmem)
    rcases hmark with rfl | rfl <;> exact absurd hchar (by decide)

/-! ## Texts -/

/-- What a text is read as, without regard to dates. -/
lemma read?_eq_ite (format : NumberFormat) (text : String) :
    read? format text =
      if (trim text.toList).any Char.isDigit ∧ hasAmountChars (trim text.toList) then
        (readTrimmed? format (trim text.toList)).filter Float.isFinite
      else none := by
  unfold read?
  dsimp only
  by_cases hdate : looksLikeDate (trim text.toList)
  · rw [if_neg fun h => h.2.1 hdate]
    split_ifs with h
    · have htrim := trim_trim text.toList
      rw [← htrim, readTrimmed?_eq_none_of_looksLikeDate hdate (by rw [htrim]; exact h.2)]
      rfl
    · rfl
  · simp only [hdate]
    simp

/-- **A text with its marks exchanged is read alike**, if the marks of the format are exchanged as
well. In particular, the two formats read each text and its mirror image as the same number, or both
as none. -/
theorem read_mirrored :
    (∀ text, read? .us (mirrored text) = read? .european text) ∧
      ∀ (format : NumberFormat) (text : String),
        read? format.mirrored (mirrored text) = read? format text := by
  have hread : ∀ (format : NumberFormat) (text : String),
      read? format.mirrored (mirrored text) = read? format text := by
    intro format text
    have hany : ∀ run : List Char,
        (run.map otherMark).any Char.isDigit = run.any Char.isDigit := by
      intro run
      rw [List.any_map]
      exact congrArg run.any (funext isDigit_otherMark)
    rw [read?_eq_ite, read?_eq_ite, mirrored, String.toList_ofList, trim_map_otherMark, hany,
      hasAmountChars_map_otherMark, readTrimmed?_mirrored]
  exact ⟨hread .european, hread⟩

end Amount

end SheetFormula

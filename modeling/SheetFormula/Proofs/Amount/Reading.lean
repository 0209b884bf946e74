import SheetFormula.Proofs.Amount.Division
import SheetFormula.Proofs.Text.Shape
import Mathlib.Data.List.Count

/-!
# The rule for amounts

Which divided texts are amounts, stated without the reader: how the decimal mark is found, where it
stands, and how the digits before it are grouped. The reader of amounts follows this rule on every
text of digits, marks and white space that does not look like a date.

## Main definitions

* `SheetFormula.Amount.DecimalMark` — the mark before the fraction, if there is one.
* `SheetFormula.Amount.Splits` — the parts before the decimal mark and the fraction behind it.
* `SheetFormula.Amount.IsAmount` — the rule.

## Main results

* `SheetFormula.Amount.Splits.exists_kind` — marks of one kind group the digits of an amount.
* `SheetFormula.Amount.parts_eq_some_iff` — the reader finds the digits that the rule gives.
* `SheetFormula.Amount.read_eq_some_iff` — the reader of amounts follows the rule.
-/

set_option relaxedAutoImplicit false
set_option autoImplicit false

namespace SheetFormula.Amount

open SheetFormula.Text (isBlank isDecimalDigit trim trimStart trimStart_trim)

/-! ## The rule -/

/-- A mark is the only one in some parts, up to white space. -/
def IsOnlyMark (mark : Separator) (parts : List Part) : Prop :=
  mark ≠ .space ∧ mark ∈ separatorsOf parts ∧
    ∀ separator ∈ separatorsOf parts, separator = mark ∨ separator = .space

/-- The decimal mark of some parts: the mark before the fraction, if there is one. -/
inductive DecimalMark (format : NumberFormat) (parts : List Part) : Option Separator → Prop
  /-- Where both marks occur, it is the right-most one of all. -/
  | rightmost {mark : Separator} {before behind : List Separator}
    (hpoint : .point ∈ separatorsOf parts) (hcomma : .comma ∈ separatorsOf parts)
    (hsplit : separatorsOf parts = before ++ mark :: behind) (hmark : mark ≠ .space)
    (hbehind : ∀ separator ∈ behind, separator = .space) : DecimalMark format parts (some mark)
  /-- Where no mark occurs, there is none. -/
  | absent (hspaces : ∀ separator ∈ separatorsOf parts, separator = .space) :
    DecimalMark format parts none
  /-- A mark that occurs twice or more groups digits. -/
  | repeated {mark : Separator} (honly : IsOnlyMark mark parts)
    (hcount : 2 ≤ (separatorsOf parts).count mark) : DecimalMark format parts none
  /-- A mark that occurs once, where white space occurs as well, is the decimal mark. -/
  | spaced {mark : Separator} (honly : IsOnlyMark mark parts)
    (hcount : (separatorsOf parts).count mark = 1) (hspace : .space ∈ separatorsOf parts) :
    DecimalMark format parts (some mark)
  /-- The grouping mark of the format, as the only separator before exactly three digits, groups
  digits. -/
  | grouping {mark : Separator} {digits : List Char} (hmark : mark ≠ .space)
    (hparts : parts = [⟨mark, digits⟩])
    (hthree : mark.char = format.thousands ∧ digits.length = 3) : DecimalMark format parts none
  /-- Any other mark that is the only separator is the decimal mark. -/
  | alone {mark : Separator} {digits : List Char} (hmark : mark ≠ .space)
    (hparts : parts = [⟨mark, digits⟩])
    (hthree : ¬ (mark.char = format.thousands ∧ digits.length = 3)) :
    DecimalMark format parts (some mark)

/-- The parts before the decimal mark, and the fraction behind it. The decimal mark occurs once, as
the last separator. -/
inductive Splits (parts : List Part) : Option Separator → List Part → List Char → Prop
  | whole : Splits parts none parts []
  | fraction {mark : Separator} {grouped : List Part} {fraction : List Char}
    (hparts : parts = grouped ++ [⟨mark, fraction⟩]) (honce : mark ∉ separatorsOf grouped) :
    Splits parts (some mark) grouped fraction

/-- The rule for amounts, for the first digits of a text and the parts behind them. -/
structure IsAmount (format : NumberFormat) (first : List Char) (parts grouped : List Part)
    (fraction : List Char) : Prop where
  /-- The decimal mark divides the whole part from the fraction. -/
  split : ∃ mark, DecimalMark format parts mark ∧ Splits parts mark grouped fraction
  /-- The whole part is a single run of digits, or has groups of three behind a first one of one to
  three. -/
  whole : grouped = [] ∧ (first ≠ [] ∨ fraction ≠ []) ∨
    grouped ≠ [] ∧ 1 ≤ first.length ∧ first.length ≤ 3 ∧ ∀ part ∈ grouped, part.digits.length = 3

/-- **Marks of one kind group the digits of an amount**, up to white space. -/
theorem Splits.exists_kind {format : NumberFormat} {parts grouped : List Part}
    {mark : Option Separator} {fraction : List Char} (hsplit : Splits parts mark grouped fraction)
    (hmark : DecimalMark format parts mark) :
    ∃ kind, ∀ separator ∈ separatorsOf grouped, separator = kind ∨ separator = .space := by
  cases hsplit with
  | whole =>
    cases hmark with
    | absent hspaces => exact ⟨.space, fun separator hmem => .inr (hspaces separator hmem)⟩
    | repeated honly hcount => exact ⟨_, honly.2.2⟩
    | @grouping mark digits hmark hparts hthree => exact ⟨mark, by simp [hparts]⟩
  | @fraction mark grouped fraction hparts honce =>
    have hsub : ∀ separator ∈ separatorsOf grouped,
        separator ∈ separatorsOf parts ∧ separator ≠ mark := fun separator hmem => by
      refine ⟨by rw [hparts]; simpa using .inl (by simpa using hmem), ?_⟩
      rintro rfl
      exact honce hmem
    cases hmark with
    | rightmost _ _ _ hmark _ =>
      cases mark with
      | space => exact absurd rfl hmark
      | point =>
        refine ⟨.comma, fun separator hmem => ?_⟩
        have hne := (hsub separator hmem).2
        cases separator <;> first | exact .inl rfl | exact .inr rfl | exact absurd rfl hne
      | comma =>
        refine ⟨.point, fun separator hmem => ?_⟩
        have hne := (hsub separator hmem).2
        cases separator <;> first | exact .inl rfl | exact .inr rfl | exact absurd rfl hne
    | spaced honly _ _ =>
      refine ⟨.space, fun separator hmem => ?_⟩
      obtain ⟨hparts', hne⟩ := hsub separator hmem
      exact .inr ((honly.2.2 separator hparts').resolve_left hne)
    | alone hmark hparts' _ =>
      rw [hparts] at hparts'
      obtain rfl : grouped = [] := by cases grouped <;> simp_all
      exact ⟨.space, by simp⟩

/-! ## Groups and parts -/

/-- The digits of the groups are those of the parts, in order. -/
lemma map_digits_groupsOf (last : Option Separator) (first : List Char) (parts : List Part) :
    (groupsOf last first parts).map Group.digits = first :: parts.map Part.digits := by
  induction parts generalizing first with
  | nil => rfl
  | cons part rest ih => rw [groupsOf, List.map_cons, ih, List.map_cons]

/-- The separators of the groups are those of the parts. -/
lemma separators_groupsOf (first : List Char) (parts : List Part) :
    separators (groupsOf none first parts) = (separatorsOf parts).map Separator.char := by
  induction parts generalizing first with
  | nil => rfl
  | cons part rest ih =>
    have hrest := ih part.digits
    simp only [separators] at hrest
    simp [groupsOf, separators, hrest]

/-- A last part is a last group, and its separator ends the group before it. -/
lemma groupsOf_concat (last : Option Separator) (first : List Char) (parts : List Part)
    (part : Part) :
    groupsOf last first (parts ++ [part]) =
      groupsOf (some part.separator) first parts ++ [⟨part.digits, last.map Separator.char⟩] := by
  induction parts generalizing first with
  | nil => rfl
  | cons next rest ih => rw [List.cons_append, groupsOf, ih, groupsOf, List.cons_append]

/-- A divided text has a group. -/
lemma groupsOf_ne_nil (last : Option Separator) (first : List Char) (parts : List Part) :
    groupsOf last first parts ≠ [] := by
  cases parts <;> simp [groupsOf]

/-- The separators between the groups are those of the parts, whatever ends the last group. -/
lemma separators_dropLast (last : Option Separator) (first : List Char) (parts : List Part) :
    separators (groupsOf last first parts).dropLast = (separatorsOf parts).map Separator.char := by
  induction parts generalizing first with
  | nil => rfl
  | cons part rest ih =>
    have hrest := ih part.digits
    simp only [separators] at hrest
    rw [groupsOf, List.dropLast_cons_of_ne_nil (groupsOf_ne_nil last part.digits rest)]
    simp [separators, hrest]

/-- A separator occurs as often as its character. -/
lemma count_char (separators : List Separator) (separator : Separator) :
    (separators.map Separator.char).count separator.char = separators.count separator :=
  List.count_map_of_injective separators Separator.char (fun _ _ => char_injective) separator

/-! ## The decimal mark -/

/-- The last mark of some separators is found from the end. -/
lemma find?_reverse {before behind : List Separator} {mark : Separator} (hmark : mark ≠ .space)
    (hbehind : ∀ separator ∈ behind, separator = .space) :
    (((before ++ mark :: behind).map Separator.char).reverse.find? (· ≠ ' ')) =
      some mark.char := by
  have hspaces : ((behind.map Separator.char).reverse.find? (· ≠ ' ')) = none := by
    simp only [List.find?_eq_none, List.mem_reverse, List.mem_map]
    rintro c ⟨separator, hmem, rfl⟩
    rw [hbehind separator hmem]
    decide
  have hfound : mark.char ≠ ' ' := fun h => hmark (char_injective h)
  rw [List.map_append, List.map_cons, List.reverse_append, List.reverse_cons, List.append_assoc,
    List.find?_append, hspaces]
  simp [hfound]

/-- Where one mark is the only one, the other one does not occur. -/
lemma IsOnlyMark.cases {mark : Separator} {parts : List Part} (h : IsOnlyMark mark parts) :
    mark = .point ∧ (separatorsOf parts).count .comma = 0 ∨
      mark = .comma ∧ (separatorsOf parts).count .point = 0 := by
  obtain ⟨hmark, -, honly⟩ := h
  cases mark with
  | space => exact absurd rfl hmark
  | point =>
    refine .inl ⟨rfl, List.count_eq_zero.mpr fun hmem => ?_⟩
    rcases honly .comma hmem with h | h <;> cases h
  | comma =>
    refine .inr ⟨rfl, List.count_eq_zero.mpr fun hmem => ?_⟩
    rcases honly .point hmem with h | h <;> cases h

/-- The decimal mark that the reader finds, by the counts of the separators. -/
lemma decimalMark?_groupsOf (format : NumberFormat) (first : List Char) (parts : List Part) :
    decimalMark? format (groupsOf none first parts) =
      if 0 < (separatorsOf parts).count .point ∧ 0 < (separatorsOf parts).count .comma then
        ((separatorsOf parts).map Separator.char).reverse.find? (· ≠ ' ')
      else if (separatorsOf parts).count .point + (separatorsOf parts).count .comma ≠ 1 then none
      else
        let mark := if 0 < (separatorsOf parts).count .point then '.' else ','
        if ' ' ∉ (separatorsOf parts).map Separator.char ∧ mark = format.thousands ∧
          digitsBehind? mark (groupsOf none first parts) = some 3 then none
        else some mark := by
  have hpoints := count_char (separatorsOf parts) .point
  have hcommas := count_char (separatorsOf parts) .comma
  simp only [Separator.char] at hpoints hcommas
  simp only [decimalMark?, separators_groupsOf, hpoints, hcommas]

/-- The reader finds the decimal mark that the rule gives. -/
lemma decimalMark?_eq {format : NumberFormat} {parts : List Part} {mark : Option Separator}
    (h : DecimalMark format parts mark) (first : List Char) :
    decimalMark? format (groupsOf none first parts) = mark.map Separator.char := by
  rw [decimalMark?_groupsOf]
  cases h with
  | rightmost hpoint hcomma hsplit hmark hbehind =>
    rw [if_pos ⟨List.count_pos_iff.mpr hpoint, List.count_pos_iff.mpr hcomma⟩, hsplit,
      find?_reverse hmark hbehind]
    rfl
  | absent hspaces =>
    have hpoint : (separatorsOf parts).count .point = 0 :=
      List.count_eq_zero.mpr fun hmem => by cases hspaces _ hmem
    have hcomma : (separatorsOf parts).count .comma = 0 :=
      List.count_eq_zero.mpr fun hmem => by cases hspaces _ hmem
    rw [if_neg (by omega), if_pos (by omega)]
    rfl
  | repeated honly hcount =>
    rcases honly.cases with ⟨rfl, hother⟩ | ⟨rfl, hother⟩
    all_goals
      rw [if_neg (by omega), if_pos (by omega)]
      rfl
  | spaced honly hcount hspace =>
    have hblank : ' ' ∈ (separatorsOf parts).map Separator.char := List.mem_map_of_mem hspace
    rcases honly.cases with ⟨rfl, hother⟩ | ⟨rfl, hother⟩
    all_goals
      rw [if_neg (by omega), if_neg (by omega)]
      dsimp only
      rw [if_neg fun h => h.1 hblank]
      simp [hcount, hother, Separator.char]
  | @grouping mark digits hmark hparts hthree =>
    subst hparts
    cases mark with
    | space => exact absurd rfl hmark
    | point | comma => simpa [groupsOf, digitsBehind?, Separator.char] using hthree
  | @alone mark digits hmark hparts hthree =>
    subst hparts
    cases mark with
    | space => exact absurd rfl hmark
    | point | comma => simpa [groupsOf, digitsBehind?, Separator.char] using hthree

/-- Where a mark occurs among some separators, there is a right-most one. -/
lemma exists_rightmost {separators : List Separator} (h : ∃ mark ∈ separators, mark ≠ .space) :
    ∃ before mark behind, separators = before ++ mark :: behind ∧ mark ≠ .space ∧
      ∀ separator ∈ behind, separator = .space := by
  induction separators with
  | nil =>
    obtain ⟨mark, hmem, -⟩ := h
    cases hmem
  | cons first rest ih =>
    by_cases hrest : ∃ mark ∈ rest, mark ≠ .space
    · obtain ⟨before, mark, behind, rfl, hmark, hbehind⟩ := ih hrest
      exact ⟨first :: before, mark, behind, rfl, hmark, hbehind⟩
    · have hbehind : ∀ separator ∈ rest, separator = .space := by simpa using hrest
      obtain ⟨mark, hmem, hmark⟩ := h
      rcases List.mem_cons.mp hmem with rfl | hmem
      · exact ⟨[], mark, rest, rfl, hmark, hbehind⟩
      · exact absurd (hbehind mark hmem) hmark

/-- Parts without white space, with one mark that occurs once, are a single part. -/
lemma IsOnlyMark.eq_singleton {mark : Separator} {parts : List Part} (h : IsOnlyMark mark parts)
    (hcount : (separatorsOf parts).count mark = 1) (hspace : .space ∉ separatorsOf parts) :
    ∃ digits, parts = [⟨mark, digits⟩] := by
  have hall : ∀ separator ∈ separatorsOf parts, mark = separator := fun separator hmem =>
    ((h.2.2 separator hmem).resolve_right fun hs => hspace (hs ▸ hmem)).symm
  rw [List.count_eq_length.mpr hall, List.length_map] at hcount
  obtain ⟨⟨separator, digits⟩, rfl⟩ := List.length_eq_one_iff.mp hcount
  obtain rfl : mark = separator := hall separator (by simp)
  exact ⟨digits, rfl⟩

/-- Parts with a single kind of mark have a decimal mark, or are known to have none. -/
lemma IsOnlyMark.exists_decimalMark {mark : Separator} {parts : List Part}
    (h : IsOnlyMark mark parts) (format : NumberFormat) :
    ∃ decimal, DecimalMark format parts decimal := by
  have hpos : 0 < (separatorsOf parts).count mark := List.count_pos_iff.mpr h.2.1
  by_cases hcount : (separatorsOf parts).count mark = 1
  · by_cases hspace : .space ∈ separatorsOf parts
    · exact ⟨_, .spaced h hcount hspace⟩
    · obtain ⟨digits, hparts⟩ := h.eq_singleton hcount hspace
      by_cases hthree : mark.char = format.thousands ∧ digits.length = 3
      · exact ⟨_, .grouping h.1 hparts hthree⟩
      · exact ⟨_, .alone h.1 hparts hthree⟩
  · exact ⟨_, .repeated h (by omega)⟩

/-- The rule settles for all parts which mark is the decimal one. -/
lemma exists_decimalMark (format : NumberFormat) (parts : List Part) :
    ∃ mark, DecimalMark format parts mark := by
  by_cases hpoint : .point ∈ separatorsOf parts
  · by_cases hcomma : .comma ∈ separatorsOf parts
    · obtain ⟨before, mark, behind, hsplit, hmark, hbehind⟩ :=
        exists_rightmost ⟨.point, hpoint, by simp⟩
      exact ⟨_, .rightmost hpoint hcomma hsplit hmark hbehind⟩
    · have honly : IsOnlyMark .point parts := by
        refine ⟨by simp, hpoint, fun separator hmem => ?_⟩
        cases separator with
        | point => exact .inl rfl
        | space => exact .inr rfl
        | comma => exact absurd hmem hcomma
      exact honly.exists_decimalMark format
  · by_cases hcomma : .comma ∈ separatorsOf parts
    · have honly : IsOnlyMark .comma parts := by
        refine ⟨by simp, hcomma, fun separator hmem => ?_⟩
        cases separator with
        | point => exact absurd hmem hpoint
        | space => exact .inr rfl
        | comma => exact .inl rfl
      exact honly.exists_decimalMark format
    · refine ⟨_, .absent fun separator hmem => ?_⟩
      cases separator with
      | point => exact absurd hmem hpoint
      | space => rfl
      | comma => exact absurd hmem hcomma

/-! ## The whole part and the fraction -/

/-- The reader splits some parts as the rule does. -/
lemma splitAt?_eq_some {mark : Option Separator} {first fraction : List Char} {parts : List Part}
    {wholeGroups : List Group} :
    splitAt? (mark.map Separator.char) (groupsOf none first parts) = some (wholeGroups, fraction) ↔
      ∃ grouped, Splits parts mark grouped fraction ∧ wholeGroups = groupsOf mark first grouped := by
  cases mark with
  | none =>
    simp only [Option.map_none, splitAt?, Option.some.injEq, Prod.mk.injEq]
    constructor
    · rintro ⟨rfl, rfl⟩
      exact ⟨parts, .whole, rfl⟩
    · rintro ⟨grouped, hsplit, rfl⟩
      cases hsplit
      exact ⟨rfl, rfl⟩
  | some mark =>
    simp only [Option.map_some, splitAt?, separators_groupsOf, count_char]
    constructor
    · intro h
      split_ifs at h with hlast
      obtain ⟨honce, hlast⟩ := hlast
      rcases List.eq_nil_or_concat parts with rfl | ⟨grouped, ⟨separator, digits⟩, rfl⟩
      · cases hlast
      · simp only [List.concat_eq_append, List.map_append] at h honce hlast ⊢
        obtain rfl : separator = mark := char_injective (by simpa using hlast)
        rw [groupsOf_concat] at h
        simp only [List.dropLast_concat, List.getLast?_concat, Option.map_some, Option.getD_some,
          Option.some.injEq, Prod.mk.injEq] at h
        obtain ⟨rfl, rfl⟩ := h
        refine ⟨grouped, .fraction rfl fun hmem => ?_, rfl⟩
        have hpos := List.count_pos_iff.mpr hmem
        change (separatorsOf grouped ++ [separator]).count separator = 1 at honce
        rw [List.count_append, List.count_singleton_self] at honce
        omega
    · rintro ⟨grouped, hsplit, rfl⟩
      cases hsplit with
      | fraction hparts honce =>
        subst hparts
        have hcount := List.count_eq_zero.mpr honce
        rw [if_pos ⟨by simp [hcount], by simp⟩, groupsOf_concat]
        simp

/-- Separators that are all of one kind, up to white space, agree with each other. -/
lemma allAgree_of_kind {separators : List Separator} {kind : Separator}
    (h : ∀ separator ∈ separators, separator = kind ∨ separator = .space) :
    allAgree (separators.map Separator.char) := by
  induction separators with
  | nil => rfl
  | cons first rest ih =>
    have hrest := ih fun separator hmem => h separator (List.mem_cons_of_mem _ hmem)
    cases rest with
    | nil => rfl
    | cons second rest =>
      have hagree : agree first.char second.char := by
        rcases h first (by simp) with rfl | rfl
        · rcases h second (by simp) with rfl | rfl <;> simp [agree, Separator.char]
        · simp [agree, Separator.char]
      simp only [List.map_cons, allAgree, hagree, Bool.true_and] at hrest ⊢
      exact hrest

/-- The reader finds the groups of the whole part correct if the rule does, where marks of one kind
group them. -/
lemma wellGrouped_groupsOf {last : Option Separator} {first : List Char} {grouped : List Part}
    (hkind : ∃ kind, ∀ separator ∈ separatorsOf grouped, separator = kind ∨ separator = .space) :
    wellGrouped (groupsOf last first grouped) ↔
      grouped = [] ∨ 1 ≤ first.length ∧ first.length ≤ 3 ∧
        ∀ part ∈ grouped, part.digits.length = 3 := by
  obtain ⟨kind, hkind⟩ := hkind
  cases grouped with
  | nil => simp [groupsOf, wellGrouped]
  | cons part rest =>
    have hagree := allAgree_of_kind hkind
    have hseparators := separators_dropLast last first (part :: rest)
    have hthree : (groupsOf last part.digits rest).all (fun group => group.digits.length == 3) =
        (part.digits :: rest.map Part.digits).all (fun digits => digits.length == 3) := by
      rw [← map_digits_groupsOf last, List.all_map]
      rfl
    rw [← hseparators] at hagree
    obtain ⟨second, others, hgroups⟩ :=
      List.exists_cons_of_ne_nil (groupsOf_ne_nil last part.digits rest)
    rw [groupsOf, hgroups] at hagree
    rw [hgroups] at hthree
    simp only [groupsOf, hgroups, wellGrouped, hthree, hagree]
    simp [and_assoc]

/-- A gap between separators is a part without digits, other than the last one. -/
lemma hasInnerGap_groupsOf (first : List Char) (parts : List Part) :
    hasInnerGap (groupsOf none first parts) =
      (parts.dropLast.map Part.digits).any List.isEmpty := by
  have hdigits : ((groupsOf none first parts).drop 1).dropLast.map Group.digits =
      parts.dropLast.map Part.digits := by
    rw [List.map_dropLast, List.map_drop, map_digits_groupsOf, List.drop_one, List.tail_cons,
      List.map_dropLast]
  rw [hasInnerGap, ← hdigits, List.any_map]
  rfl

/-- The parts other than the last one come before the decimal mark. -/
lemma Splits.mem_grouped {parts grouped : List Part} {mark : Option Separator}
    {fraction : List Char} (h : Splits parts mark grouped fraction) {part : Part}
    (hmem : part ∈ parts.dropLast) : part ∈ grouped := by
  cases h with
  | whole => exact (List.dropLast_sublist _).subset hmem
  | fraction hparts honce => simpa [hparts] using hmem

/-- Where the rule holds, the reader finds no gap between separators. -/
lemma IsAmount.hasInnerGap_eq {format : NumberFormat} {first : List Char}
    {parts grouped : List Part} {fraction : List Char}
    (h : IsAmount format first parts grouped fraction) :
    hasInnerGap (groupsOf none first parts) = false := by
  obtain ⟨mark, -, hsplit⟩ := h.split
  rw [hasInnerGap_groupsOf, List.any_eq_false]
  intro digits hdigits
  obtain ⟨part, hmem, rfl⟩ := List.mem_map.mp hdigits
  have hgrouped := hsplit.mem_grouped hmem
  rcases h.whole with ⟨rfl, -⟩ | ⟨-, -, -, hthree⟩
  · cases hgrouped
  · have hlength := hthree part hgrouped
    rw [List.isEmpty_iff]
    rintro hempty
    rw [hempty] at hlength
    cases hlength

/-- The digits of the groups of the whole part. -/
lemma flatMap_digits_groupsOf (last : Option Separator) (first : List Char) (parts : List Part) :
    (groupsOf last first parts).flatMap Group.digits = first ++ parts.flatMap Part.digits := by
  rw [List.flatMap_def, map_digits_groupsOf, List.flatten_cons, ← List.flatMap_def]

/-- A whole part is as the rule wants it if it is a single run of digits or grouped correctly, and
there is a digit at all. -/
lemma whole_iff {first fraction : List Char} {grouped : List Part} :
    (grouped = [] ∧ (first ≠ [] ∨ fraction ≠ []) ∨
      grouped ≠ [] ∧ 1 ≤ first.length ∧ first.length ≤ 3 ∧
        ∀ part ∈ grouped, part.digits.length = 3) ↔
    (grouped = [] ∨ 1 ≤ first.length ∧ first.length ≤ 3 ∧
        ∀ part ∈ grouped, part.digits.length = 3) ∧
      (first ++ grouped.flatMap Part.digits) ++ fraction ≠ [] := by
  cases grouped with
  | nil => simp [imp_iff_not_or]
  | cons part rest =>
    simp only [reduceCtorEq, false_and, false_or, ne_eq, not_false_eq_true, true_and]
    constructor
    · intro h
      refine ⟨h, fun hempty => ?_⟩
      rw [List.append_eq_nil_iff, List.append_eq_nil_iff] at hempty
      rw [hempty.1.1] at h
      exact absurd h.1 (by decide)
    · exact fun h => h.1

/-- **The reader finds the digits that the rule gives**, before and behind the decimal mark.

**Proof sketch.** The groups of the text are those of its division. On them the reader finds the
decimal mark of the rule, splits as the rule does, and checks the groups before the mark. The other
checks, for gaps and for different grouping marks, follow from the rule. -/
theorem parts_eq_some_iff {format : NumberFormat} {text first whole fraction : List Char}
    {parts : List Part} (h : Divides text first parts) :
    parts? format text = some (whole, fraction) ↔
      ∃ grouped, IsAmount format first parts grouped fraction ∧
        whole = first ++ grouped.flatMap Part.digits := by
  rw [parts?, groups_of_divides h]
  constructor
  · intro hread
    obtain ⟨mark, hmark⟩ := exists_decimalMark format parts
    dsimp only at hread
    split_ifs at hread with hgap
    rw [decimalMark?_eq hmark] at hread
    obtain ⟨⟨wholeGroups, fraction'⟩, hfound, hread⟩ := Option.bind_eq_some_iff.mp hread
    obtain ⟨grouped, hsplit, rfl⟩ := splitAt?_eq_some.mp hfound
    dsimp only at hread
    split_ifs at hread with hgroups
    simp only [flatMap_digits_groupsOf, Option.some.injEq, Prod.mk.injEq] at hgroups hread
    obtain ⟨rfl, rfl⟩ := hread
    rw [wellGrouped_groupsOf (hsplit.exists_kind hmark)] at hgroups
    exact ⟨grouped, ⟨⟨mark, hmark, hsplit⟩, whole_iff.mpr hgroups⟩, rfl⟩
  · rintro ⟨grouped, hamount, rfl⟩
    obtain ⟨mark, hmark, hsplit⟩ := hamount.split
    have hgroups := whole_iff.mp hamount.whole
    rw [← wellGrouped_groupsOf (hsplit.exists_kind hmark)] at hgroups
    have hfound : splitAt? (mark.map Separator.char) (groupsOf none first parts) =
        some (groupsOf mark first grouped, fraction) :=
      splitAt?_eq_some.mpr ⟨grouped, hsplit, rfl⟩
    dsimp only
    rw [hamount.hasInnerGap_eq, decimalMark?_eq hmark, hfound]
    simp only [flatMap_digits_groupsOf, Option.bind_eq_bind, Option.bind_some]
    exact if_pos hgroups

/-! ## Texts -/

/-- Digits, marks and white space are characters of amounts. -/
lemma IsPlain.isAmountChar {c : Char} (h : IsPlain c) : isAmountChar c := by
  rcases h with h | rfl | rfl | h
  · simp [Amount.isAmountChar, isDecimalDigit, h]
  · rfl
  · rfl
  · simp [Amount.isAmountChar, h]

/-- A minus sign is none of them. -/
lemma IsPlain.ne_minus {c : Char} (h : IsPlain c) : c ≠ '-' := by
  rintro rfl
  rcases h with h | h | h | h <;> exact absurd h (by decide)

/-- What is read behind the sign of an amount. -/
lemma readTrimmed?_eq {format : NumberFormat} {text : List Char} {negative : Bool}
    {rest : List Char} (htrim : trim text = (if negative then ['-'] else []) ++ rest)
    (hplain : ∀ c ∈ rest, IsPlain c) :
    readTrimmed? format (trim text) = (parts? format (trimStart rest)).map fun (whole, fraction) =>
      Number.ofParts negative whole fraction 0 := by
  cases negative with
  | true =>
    rw [htrim]
    rfl
  | false =>
    have hrest : trim text = rest := htrim
    have hstart : trimStart rest = rest := by rw [← hrest, trimStart_trim]
    rw [hrest, hstart]
    unfold readTrimmed?
    split
    next sign body hsign =>
      split at hsign
      · exact absurd rfl (hplain '-' (by simp)).ne_minus
      · cases hsign
        rfl

/-- Texts of digits, marks and white space, possibly behind a sign, are not refused. -/
lemma hasAmountChars_of_plain {rest : List Char} (negative : Bool)
    (hplain : ∀ c ∈ rest, IsPlain c) (hdigit : ∃ c ∈ rest, c.isDigit) :
    hasAmountChars ((if negative then ['-'] else []) ++ rest) := by
  obtain ⟨digit, hmem, -⟩ := hdigit
  have hne : rest ≠ [] := List.ne_nil_of_mem hmem
  have hall : rest.all isAmountChar := List.all_eq_true.mpr fun c hc => (hplain c hc).isAmountChar
  cases negative with
  | true => simp [hasAmountChars, hne, hall]
  | false =>
    simp only [Bool.false_eq_true, if_false, List.nil_append]
    unfold hasAmountChars
    split
    next rest' => exact absurd rfl (hplain '-' (by simp)).ne_minus
    next => simp [hne, hall]

/-- What is read from a text of digits, marks and white space, possibly behind a sign, that does not
look like a date. -/
lemma read?_eq {format : NumberFormat} {text : String} {negative : Bool} {rest : List Char}
    (htrim : trim text.toList = (if negative then ['-'] else []) ++ rest)
    (hplain : ∀ c ∈ rest, IsPlain c) (hdigit : ∃ c ∈ rest, c.isDigit)
    (hdate : looksLikeDate (trim text.toList) = false) :
    read? format text = ((parts? format (trimStart rest)).map fun (whole, fraction) =>
      Number.ofParts negative whole fraction 0).filter Float.isFinite := by
  have hany : (trim text.toList).any Char.isDigit := by
    obtain ⟨digit, hmem, hdigit⟩ := hdigit
    rw [htrim, List.any_append, List.any_eq_true.mpr ⟨digit, hmem, hdigit⟩, Bool.or_true]
  have hchars : hasAmountChars (trim text.toList) := by
    rw [htrim]
    exact hasAmountChars_of_plain negative hplain hdigit
  rw [← readTrimmed?_eq htrim hplain]
  exact if_pos ⟨hany, by simp [hdate], hchars⟩

/-- **The reader of amounts follows the rule**, on every text that consists of digits, marks and
white space, possibly behind a minus sign, with a digit among them, and that does not look like a
date. The text behind the sign has one division. It is read as a number if the rule makes an amount
of that division, and the number is the double of the digits that the rule gives, if that is finite.
Marks of one kind then group the digits. -/
theorem read_eq_some_iff (format : NumberFormat) (text : String) (negative : Bool)
    (rest : List Char)
    (htrim : trim text.toList = (if negative then ['-'] else []) ++ rest)
    (hplain : ∀ c ∈ rest, IsPlain c) (hdigit : ∃ c ∈ rest, c.isDigit)
    (hdate : looksLikeDate (trim text.toList) = false) :
    ∃ first parts, Divides (trimStart rest) first parts ∧
      (∀ first' parts', Divides (trimStart rest) first' parts' → first' = first ∧ parts' = parts) ∧
      (∀ number, read? format text = some number ↔
        ∃ grouped fraction, IsAmount format first parts grouped fraction ∧
          number = Number.ofParts negative (first ++ grouped.flatMap Part.digits) fraction 0 ∧
          number.isFinite) ∧
      ∀ grouped fraction, IsAmount format first parts grouped fraction →
        ∃ kind, ∀ separator ∈ separatorsOf grouped, separator = kind ∨ separator = .space := by
  have hbody : ∀ c ∈ trimStart rest, IsPlain c := fun c hc =>
    hplain c ((List.dropWhile_sublist isBlank).subset hc)
  obtain ⟨first, parts, hdivides⟩ := exists_divides hbody
  refine ⟨first, parts, hdivides, fun _ _ h => h.unique hdivides, fun number => ?_, ?_⟩
  · rw [read?_eq htrim hplain hdigit hdate, Option.filter_eq_some_iff, Option.map_eq_some_iff]
    constructor
    · rintro ⟨⟨⟨whole, fraction⟩, hparts, rfl⟩, hfinite⟩
      obtain ⟨grouped, hamount, rfl⟩ := (parts_eq_some_iff hdivides).mp hparts
      exact ⟨grouped, fraction, hamount, rfl, hfinite⟩
    · rintro ⟨grouped, fraction, hamount, rfl, hfinite⟩
      have hparts := (parts_eq_some_iff hdivides).mpr ⟨grouped, hamount, rfl⟩
      exact ⟨⟨⟨_, fraction⟩, hparts, rfl⟩, hfinite⟩
  · intro grouped fraction hamount
    obtain ⟨mark, hmark, hsplit⟩ := hamount.split
    exact hsplit.exists_kind hmark

/-- The rule for a text with a sign and both marks. -/
theorem read_signed_amount :
    ∃ first parts, Divides ['1', '.', '2', '3', '4', ',', '5'] first parts ∧
      ∀ number, read? .european "-1.234,5" = some number ↔
        ∃ grouped fraction, IsAmount .european first parts grouped fraction ∧
          number = Number.ofParts true (first ++ grouped.flatMap Part.digits) fraction 0 ∧
          number.isFinite := by
  obtain ⟨first, parts, hdivides, -, hread, -⟩ :=
    read_eq_some_iff .european "-1.234,5" true ['1', '.', '2', '3', '4', ',', '5'] (by decide)
      (by simp [IsPlain]) ⟨'1', by decide, by decide⟩ (by decide)
  exact ⟨first, parts, hdivides, hread⟩

end SheetFormula.Amount

import SheetFormula.Proofs.Amount.Reading

/-!
# Foreign digits in amounts

The characters of amounts include the decimal digits of all scripts, but only ASCII digits have a
value. Where a text is cut into groups, a foreign digit is a separator like any other: it is
dropped, and the number is made of the ASCII digits around it.

## Main definitions

* `SheetFormula.Amount.groupsBetween` — the groups of runs of digits with a separator between them.

## Main results

* `SheetFormula.Amount.flatMap_digits_groups` — the groups hold all ASCII digits of a text.
* `SheetFormula.Amount.exists_groups_append` — a foreign digit ends a group.
* `SheetFormula.Amount.foreign_digits_of_read?` — what is read of an amount with foreign digits, and
  where they stand in it.
* `SheetFormula.Amount.read?_of_runs` — groups of three digits with a foreign digit between them are
  read as the number without it.
-/

set_option relaxedAutoImplicit false
set_option autoImplicit false

namespace SheetFormula.Amount

open SheetFormula.Text (Shape isBlank isDecimalDigit trim trimStart trimEnd trimStart_trim
  IsForeignDigit)

/-! ## Groups -/

/-- The groups of a text hold its ASCII digits, behind those that have been read. -/
lemma flatMap_digits_groupsFrom (digits : List Char) (inSpace : Bool) (text : List Char) :
    (groupsFrom digits inSpace text).flatMap Group.digits =
      digits.reverse ++ text.filter Char.isDigit := by
  induction text generalizing digits inSpace with
  | nil => simp [groupsFrom]
  | cons c rest ih =>
    rw [groupsFrom]
    split_ifs with hdigit hblank hspace
    · simp [ih, hdigit]
    · simp [ih, hdigit]
    · simp [ih, hdigit]
    · simp [ih, hdigit]

/-- **The groups of a text hold all its ASCII digits**, in order. -/
theorem flatMap_digits_groups (text : List Char) :
    (groups text).flatMap Group.digits = text.filter Char.isDigit :=
  flatMap_digits_groupsFrom [] false text

/-- There is always a group. -/
lemma groupsFrom_ne_nil (digits : List Char) (inSpace : Bool) (text : List Char) :
    groupsFrom digits inSpace text ≠ [] := by
  induction text generalizing digits inSpace with
  | nil => simp [groupsFrom]
  | cons c rest ih =>
    rw [groupsFrom]
    split_ifs
    · exact ih _ _
    · exact ih _ _
    · simp
    · simp

/-- The separators of groups are that of the first one and those of the others. -/
lemma mem_separators_cons {mark : Char} {group : Group} {rest : List Group} :
    mark ∈ separators (group :: rest) ↔ group.separator = some mark ∨ mark ∈ separators rest := by
  simp [separators, List.mem_filterMap]

/-- A separator other than a space stands in the text. -/
lemma mem_of_mem_separators {digits : List Char} {inSpace : Bool} {text : List Char} {mark : Char}
    (h : mark ∈ separators (groupsFrom digits inSpace text)) (hmark : mark ≠ ' ') : mark ∈ text := by
  induction text generalizing digits inSpace with
  | nil => simp [groupsFrom, separators] at h
  | cons c rest ih =>
    rw [groupsFrom] at h
    split_ifs at h
    · exact List.mem_cons_of_mem _ (ih h)
    · exact List.mem_cons_of_mem _ (ih h)
    · rcases mem_separators_cons.mp h with hspace | hlater
      · exact absurd (Option.some.inj hspace).symm hmark
      · exact List.mem_cons_of_mem _ (ih hlater)
    · rcases mem_separators_cons.mp h with hsame | hlater
      · rw [Option.some.inj hsame]
        exact List.mem_cons_self
      · exact List.mem_cons_of_mem _ (ih hlater)

/-- The first group of a text has the ASCII digits at its head. If it is the only one, the text has
nothing else. -/
lemma exists_groupsFrom_cons (digits text : List Char) :
    ∃ separator more,
      groupsFrom digits false text =
        ⟨digits.reverse ++ text.takeWhile Char.isDigit, separator⟩ :: more ∧
      (more = [] → separator = none ∧ ∀ c ∈ text, c.isDigit) := by
  induction text generalizing digits with
  | nil => exact ⟨none, [], by simp [groupsFrom], by simp⟩
  | cons c rest ih =>
    by_cases hdigit : c.isDigit
    · obtain ⟨separator, more, hgroups, hmore⟩ := ih (c :: digits)
      refine ⟨separator, more, by simp [groupsFrom, hgroups, hdigit], fun hnil => ?_⟩
      obtain ⟨hseparator, hall⟩ := hmore hnil
      exact ⟨hseparator, by simpa [hdigit] using hall⟩
    · rw [groupsFrom, if_neg hdigit, List.takeWhile_cons_of_neg hdigit, List.append_nil]
      simp only [Bool.false_eq_true, if_false]
      split_ifs with hblank
      · exact ⟨_, _, rfl, fun hnil => absurd hnil (groupsFrom_ne_nil _ _ _)⟩
      · exact ⟨_, _, rfl, fun hnil => absurd hnil (groupsFrom_ne_nil _ _ _)⟩

/-- A character that is no digit and no white space ends the group of the digits before it. -/
lemma exists_groupsFrom_append {c : Char} (hc : c.isDigit = false) (hblank : isBlank c = false)
    {digits : List Char} (hdigits : ∀ d ∈ digits, d.isDigit) {inSpace : Bool}
    (hspace : inSpace = true → digits = []) (before behind : List Char) :
    ∃ earlier front last, digits.reverse ++ before = front ++ last ∧ (∀ d ∈ last, d.isDigit) ∧
      groupsFrom digits inSpace (before ++ c :: behind) =
        earlier ++ ⟨last, some c⟩ :: groups behind := by
  induction before generalizing digits inSpace with
  | nil =>
    refine ⟨[], [], digits.reverse, by simp, by simpa using hdigits, ?_⟩
    simp [groupsFrom, hc, hblank, groups]
  | cons d rest ih =>
    have hnone : ∀ d' ∈ ([] : List Char), d'.isDigit := by simp
    rw [List.cons_append, groupsFrom]
    split_ifs with hdigit hblank' hspace'
    · have hdigits' : ∀ d' ∈ d :: digits, d'.isDigit := by simpa [hdigit] using hdigits
      obtain ⟨earlier, front, last, heq, hlast, hgroups⟩ := @ih _ hdigits' false (by simp)
      exact ⟨earlier, front, last, by simpa using heq, hlast, hgroups⟩
    · obtain rfl := hspace hspace'
      obtain ⟨earlier, front, last, heq, hlast, hgroups⟩ := ih hnone (fun _ => rfl)
      exact ⟨earlier, d :: front, last, by simpa using heq, hlast, hgroups⟩
    · obtain ⟨earlier, front, last, heq, hlast, hgroups⟩ := @ih _ hnone true (fun _ => rfl)
      exact ⟨⟨digits.reverse, some ' '⟩ :: earlier, digits.reverse ++ d :: front, last,
        by simpa using heq, hlast, by rw [hgroups, List.cons_append]⟩
    · obtain ⟨earlier, front, last, heq, hlast, hgroups⟩ := @ih _ hnone false (fun _ => rfl)
      exact ⟨⟨digits.reverse, some d⟩ :: earlier, digits.reverse ++ d :: front, last,
        by simpa using heq, hlast, by rw [hgroups, List.cons_append]⟩

/-- **A foreign digit ends the group of the ASCII digits before it.** -/
theorem exists_groups_append {c : Char} (hc : IsForeignDigit c) (before behind : List Char) :
    ∃ earlier front last, before = front ++ last ∧ (∀ d ∈ last, d.isDigit) ∧
      groups (before ++ c :: behind) = earlier ++ ⟨last, some c⟩ :: groups behind := by
  have hnone : ∀ d ∈ ([] : List Char), d.isDigit := by simp
  exact exists_groupsFrom_append hc.isDigit hc.isBlank hnone (fun _ => rfl) before behind

/-! ## Amounts -/

/-- The groups before the decimal mark and the one behind it are all groups. -/
lemma exists_of_splitAt? {mark : Option Char} {all whole : List Group} {fraction : List Char}
    (hne : all ≠ []) (h : splitAt? mark all = some (whole, fraction)) :
    mark = none ∧ all = whole ∧ fraction = [] ∨
      ∃ c last, mark = some c ∧ (separators all).getLast? = some c ∧ all = whole ++ [last] ∧
        fraction = last.digits := by
  cases mark with
  | none =>
    obtain ⟨rfl, rfl⟩ : all = whole ∧ [] = fraction := by simpa [splitAt?] using h
    exact .inl ⟨rfl, rfl, rfl⟩
  | some c =>
    simp only [splitAt?] at h
    split_ifs at h with hmark
    obtain ⟨init, last, rfl⟩ := List.eq_nil_or_concat all |>.resolve_left hne
    rw [List.concat_eq_append] at h hmark ⊢
    obtain ⟨rfl, rfl⟩ : init = whole ∧ last.digits = fraction := by simpa using h
    exact .inr ⟨c, last, rfl, hmark.2, rfl, rfl⟩

/-- The digits of all groups are those before and behind the decimal mark. -/
lemma flatMap_digits_of_splitAt? {mark : Option Char} {all whole : List Group}
    {fraction : List Char} (hne : all ≠ []) (h : splitAt? mark all = some (whole, fraction)) :
    all.flatMap Group.digits = whole.flatMap Group.digits ++ fraction := by
  rcases exists_of_splitAt? hne h with ⟨-, rfl, rfl⟩ | ⟨c, last, -, -, rfl, rfl⟩
  · simp
  · simp

/-- In groups that are grouped correctly, a group has digits unless it is the only one, and those
behind it have three. -/
lemma length_of_wellGrouped {earlier rest : List Group} {group : Group}
    (h : wellGrouped (earlier ++ group :: rest) = true) (hne : earlier ≠ [] ∨ rest ≠ []) :
    group.digits ≠ [] ∧ ∀ later ∈ rest, later.digits.length = 3 := by
  cases earlier with
  | nil =>
    obtain ⟨second, rest, rfl⟩ := List.exists_cons_of_ne_nil (hne.resolve_left (fun h => h rfl))
    simp only [List.nil_append, wellGrouped, Bool.and_eq_true, decide_eq_true_eq, List.all_eq_true,
      beq_iff_eq] at h
    exact ⟨List.ne_nil_of_length_pos h.1.1.1, h.1.2⟩
  | cons first earlier =>
    obtain ⟨second, rest', hrest⟩ : ∃ second rest', earlier ++ group :: rest = second :: rest' := by
      cases earlier <;> simp
    rw [List.cons_append, hrest] at h
    simp only [wellGrouped, Bool.and_eq_true, decide_eq_true_eq, List.all_eq_true, beq_iff_eq] at h
    have hthree := h.1.2
    rw [← hrest] at hthree
    refine ⟨List.ne_nil_of_length_pos ?_, fun later hlater => hthree later (by simp [hlater])⟩
    rw [hthree group (by simp)]
    decide

/-- The decimal mark is a point or a comma, unless both occur. -/
lemma decimalMark?_cases {format : NumberFormat} {all : List Group} {c : Char}
    (h : decimalMark? format all = some c) :
    c = '.' ∨ c = ',' ∨ '.' ∈ separators all ∧ ',' ∈ separators all := by
  simp only [decimalMark?] at h
  split_ifs at h with hboth hone hpoint hgrouping hgrouping
  · exact .inr (.inr ⟨List.count_pos_iff.mp hboth.1, List.count_pos_iff.mp hboth.2⟩)
  · exact .inl (Option.some.inj h).symm
  · exact .inr (.inl (Option.some.inj h).symm)

/-- Where a foreign digit stands among the groups of an amount: the group that it ends has digits,
and the next one has three, or is the fraction of an amount with both marks. -/
lemma foreign_digits_of_groups {format : NumberFormat} {c : Char} (hc : IsForeignDigit c)
    {earlier more all whole : List Group} {digits fraction : List Char} {next : Group}
    (hall : all = earlier ++ ⟨digits, some c⟩ :: next :: more)
    (hsplit : splitAt? (decimalMark? format all) all = some (whole, fraction))
    (hgroups : wellGrouped whole = true) (hend : more = [] → next.separator = none) :
    digits ≠ [] ∧ (next.digits.length = 3 ∨
      more = [] ∧ '.' ∈ separators all ∧ ',' ∈ separators all) := by
  have hne : all ≠ [] := by simp [hall]
  rcases exists_of_splitAt? hne hsplit with ⟨-, rfl, -⟩ | ⟨mark, last, hmark, hlast, heq, -⟩
  · rw [hall] at hgroups
    obtain ⟨hdigits, hthree⟩ := length_of_wellGrouped hgroups (.inr (by simp))
    exact ⟨hdigits, .inl (hthree next (by simp))⟩
  rcases List.eq_nil_or_concat more with rfl | ⟨init, other, rfl⟩
  · -- the foreign digit is the last separator, so it is the decimal mark
    have hseparators : separators all = separators earlier ++ [c] := by
      rw [hall]
      simp [separators, hend rfl]
    obtain rfl : c = mark := by simpa [hseparators] using hlast
    obtain ⟨hpoint, hcomma⟩ : '.' ∈ separators all ∧ ',' ∈ separators all := by
      rcases decimalMark?_cases hmark with hsame | hsame | hboth
      · exact absurd hsame (hc.ne (by decide))
      · exact absurd hsame (hc.ne (by decide))
      · exact hboth
    have hearlier : earlier ≠ [] := by
      rintro rfl
      rw [hseparators] at hpoint
      exact absurd (by simpa [separators] using hpoint) (hc.ne (by decide : _ = false)).symm
    have hconcat : (earlier ++ [⟨digits, some c⟩]) ++ [next] = whole ++ [last] := by
      rw [← heq, hall]
      simp
    obtain rfl := (List.append_inj' hconcat rfl).1
    exact ⟨(length_of_wellGrouped hgroups (.inl hearlier)).1, .inr ⟨rfl, hpoint, hcomma⟩⟩
  · have hconcat : (earlier ++ ⟨digits, some c⟩ :: next :: init) ++ [other] = whole ++ [last] := by
      rw [← heq, hall]
      simp
    obtain rfl := (List.append_inj' hconcat rfl).1
    obtain ⟨hdigits, hthree⟩ := length_of_wellGrouped hgroups (.inr (by simp))
    exact ⟨hdigits, .inl (hthree next (by simp))⟩

/-- **Where foreign digits stand in an amount.** The digits of an amount are all ASCII digits of its
text, in order. Each foreign digit stands directly behind an ASCII digit, and either just three
ASCII digits follow, or it is the last separator of a text with both marks and is taken for the
decimal mark. -/
theorem foreign_digits_of_parts? {format : NumberFormat} {text whole fraction : List Char}
    (h : parts? format text = some (whole, fraction)) :
    whole ++ fraction = text.filter Char.isDigit ∧
      ∀ c before behind, IsForeignDigit c → text = before ++ c :: behind →
        (∃ front d, before = front ++ [d] ∧ d.isDigit) ∧
          ((behind.takeWhile Char.isDigit).length = 3 ∨
            '.' ∈ text ∧ ',' ∈ text ∧ ∀ d ∈ behind, d.isDigit) := by
  unfold parts? at h
  dsimp only at h
  split_ifs at h with hgap
  obtain ⟨⟨wholeGroups, fraction'⟩, hsplit, h⟩ := Option.bind_eq_some_iff.mp h
  split_ifs at h with hgroups
  obtain ⟨rfl, rfl⟩ : wholeGroups.flatMap Group.digits = whole ∧ fraction' = fraction := by
    simpa using h
  have hne : groups text ≠ [] := groupsFrom_ne_nil [] false text
  refine ⟨by rw [← flatMap_digits_of_splitAt? hne hsplit, flatMap_digits_groups], ?_⟩
  rintro c before behind hc rfl
  obtain ⟨earlier, front, last, rfl, hlast, hall⟩ := exists_groups_append hc before behind
  obtain ⟨separator, more, hbehind, hmore⟩ := exists_groupsFrom_cons [] behind
  have hall' : groups (front ++ last ++ c :: behind) = earlier ++ ⟨last, some c⟩ ::
      ⟨behind.takeWhile Char.isDigit, separator⟩ :: more := by
    rw [hall, groups, hbehind]
    rfl
  obtain ⟨hdigits, hnext⟩ :=
    foreign_digits_of_groups hc hall' hsplit hgroups.1 fun hnil => (hmore hnil).1
  constructor
  · obtain ⟨init, d, rfl⟩ := (List.eq_nil_or_concat last).resolve_left hdigits
    rw [List.concat_eq_append] at hlast ⊢
    exact ⟨front ++ init, d, by simp, hlast d (by simp)⟩
  · refine hnext.imp_right fun ⟨hnil, hpoint, hcomma⟩ => ⟨?_, ?_, (hmore hnil).2⟩
    · exact mem_of_mem_separators hpoint (by decide)
    · exact mem_of_mem_separators hcomma (by decide)

/-! ## Texts -/

/-- Cutting off white space before a text keeps all from another character on. -/
lemma trimStart_append_cons {c : Char} (hc : isBlank c = false) (before behind : List Char) :
    trimStart (before ++ c :: behind) = trimStart before ++ c :: behind := by
  rw [trimStart, List.dropWhile_append]
  split_ifs with hempty
  · rw [trimStart, List.isEmpty_iff.mp hempty, List.dropWhile_cons_of_neg (by simp [hc])]
    rfl
  · rfl

/-- An amount is read behind its sign. -/
lemma exists_of_readTrimmed? {format : NumberFormat} {text : List Char} {number : Float}
    (h : readTrimmed? format (trim text) = some number) :
    ∃ negative body, trim text = (if negative then ['-'] else []) ++ body ∧
      ∃ parts, parts? format (trimStart body) = some parts ∧
        Number.ofParts negative parts.1 parts.2 0 = number := by
  unfold readTrimmed? at h
  split at h
  next negative body hsign =>
    obtain ⟨parts, hparts, hnumber⟩ := Option.map_eq_some_iff.mp h
    split at hsign
    next rest heq =>
      cases hsign
      exact ⟨true, rest, heq, parts, hparts, hnumber⟩
    next =>
      cases hsign
      refine ⟨false, trim text, rfl, parts, ?_, hnumber⟩
      rwa [trimStart_trim]

/-- **What is read of foreign digits in an amount.** The number is made of the ASCII digits of the
text, in order, as if there were no foreign ones. Each foreign digit stands directly behind an ASCII
digit, and either just three ASCII digits follow, or it is the last separator of a text with both
marks and is taken for the decimal mark. -/
theorem foreign_digits_of_read? {format : NumberFormat} {text : String} {number : Float}
    (h : read? format text = some number) :
    ∃ negative body whole fraction,
      trim text.toList = (if negative then ['-'] else []) ++ body ∧
      whole ++ fraction = text.toList.filter Char.isDigit ∧
      number = Number.ofParts negative whole fraction 0 ∧
      ∀ c before behind, IsForeignDigit c → body = before ++ c :: behind →
        (∃ front d, before = front ++ [d] ∧ d.isDigit) ∧
          ((behind.takeWhile Char.isDigit).length = 3 ∨
            '.' ∈ body ∧ ',' ∈ body ∧ ∀ d ∈ behind, d.isDigit) := by
  unfold read? at h
  dsimp only at h
  split_ifs at h with haccepted
  obtain ⟨hread, -⟩ := Option.filter_eq_some_iff.mp h
  obtain ⟨negative, body, htrim, ⟨whole, fraction⟩, hparts, rfl⟩ := exists_of_readTrimmed? hread
  obtain ⟨hdigits, hforeign⟩ := foreign_digits_of_parts? hparts
  refine ⟨negative, body, whole, fraction, htrim, ?_, rfl, ?_⟩
  · have htext : (trim text.toList).filter Char.isDigit = text.toList.filter Char.isDigit :=
      Text.filter_trim (fun _ => isDigit_of_isBlank) text.toList
    rw [hdigits, Text.filter_trimStart fun _ => isDigit_of_isBlank, ← htext, htrim]
    cases negative <;> simp
  · rintro c before behind hc rfl
    rw [trimStart_append_cons hc.isBlank] at hforeign
    obtain ⟨⟨front, d, hfront, hd⟩, hbehind⟩ := hforeign c _ behind hc rfl
    have hsub : trimStart before ++ c :: behind ⊆ before ++ c :: behind :=
      ((List.dropWhile_sublist isBlank).append_right _).subset
    refine ⟨⟨before.takeWhile isBlank ++ front, d, ?_, hd⟩, hbehind.imp_right ?_⟩
    · rw [List.append_assoc, ← hfront]
      exact List.takeWhile_append_dropWhile.symm
    · exact fun ⟨hpoint, hcomma, hrest⟩ => ⟨hsub hpoint, hsub hcomma, hrest⟩

/-! ## Digits with a foreign digit between them -/

/-- The groups of runs of digits with a separator between them. -/
def groupsBetween (c : Char) (first : List Char) : List (List Char) → List Group
  | [] => [⟨first, none⟩]
  | next :: rest => ⟨first, some c⟩ :: groupsBetween c next rest

section Between

variable {c : Char} (hc : IsForeignDigit c)

/-- The digits of these groups are the runs. -/
lemma map_digits_groupsBetween (c : Char) (first : List Char) (others : List (List Char)) :
    (groupsBetween c first others).map Group.digits = first :: others := by
  induction others generalizing first with
  | nil => rfl
  | cons next rest ih => rw [groupsBetween, List.map_cons, ih]

/-- All separators are the one between the runs. -/
lemma eq_of_mem_separators_groupsBetween {first : List Char} {others : List (List Char)} {mark : Char}
    (h : mark ∈ separators (groupsBetween c first others)) : mark = c := by
  induction others generalizing first with
  | nil => simp [groupsBetween, separators] at h
  | cons next rest ih =>
    rcases mem_separators_cons.mp h with hsame | hlater
    · exact (Option.some.inj hsame).symm
    · exact ih hlater

include hc in
/-- Runs of digits are the groups of a text with foreign digits between them. -/
lemma groups_of_runs {first : List Char} {others : List (List Char)}
    (hdigits : ∀ run ∈ first :: others, ∀ d ∈ run, d.isDigit) :
    groups (first ++ others.flatMap (c :: ·)) = groupsBetween c first others := by
  induction others generalizing first with
  | nil =>
    have hgroups := groupsFrom_digits (hdigits first (by simp)) [] []
    simpa [groups, groupsFrom, groupsBetween] using hgroups
  | cons next rest ih =>
    obtain ⟨hfirst, hothers⟩ := List.forall_mem_cons.mp hdigits
    rw [groups, groupsFrom_digits hfirst, List.flatMap_cons, List.cons_append, groupsFrom,
      if_neg (by simp [hc.isDigit]), if_neg (by simp [hc.isBlank]), groupsBetween, ← ih hothers]
    simp [groups]

/-- Separators of one kind agree. -/
lemma allAgree_of_forall {marks : List Char} (h : ∀ mark ∈ marks, mark = c) :
    allAgree marks = true := by
  induction marks with
  | nil => rfl
  | cons first rest ih =>
    obtain ⟨rfl, hrest⟩ := List.forall_mem_cons.mp h
    cases rest with
    | nil => rfl
    | cons second rest =>
      obtain rfl := hrest second (by simp)
      simp [allAgree, agree, ih hrest]

/-- Behind the first of these groups, all have three digits if the runs have. -/
lemma length_of_mem_drop {first : List Char} {others : List (List Char)}
    (hthree : ∀ run ∈ others, run.length = 3) {group : Group}
    (h : group ∈ (groupsBetween c first others).drop 1) : group.digits.length = 3 := by
  have hmap : ((groupsBetween c first others).drop 1).map Group.digits = others := by
    rw [List.map_drop, map_digits_groupsBetween, List.drop_one, List.tail_cons]
  exact hthree _ (hmap ▸ List.mem_map_of_mem h)

/-- There is no gap within these groups. -/
lemma hasInnerGap_groupsBetween {first : List Char} {others : List (List Char)}
    (hthree : ∀ run ∈ others, run.length = 3) :
    hasInnerGap (groupsBetween c first others) = false := by
  rw [hasInnerGap, List.any_eq_false]
  intro group hgroup hempty
  have hlength := length_of_mem_drop hthree (List.dropLast_subset _ hgroup)
  rw [List.isEmpty_iff.mp hempty] at hlength
  cases hlength

/-- These groups are grouped correctly. -/
lemma wellGrouped_groupsBetween {first : List Char} {others : List (List Char)}
    (hfirst : 1 ≤ first.length ∧ first.length ≤ 3) (hthree : ∀ run ∈ others, run.length = 3) :
    wellGrouped (groupsBetween c first others) = true := by
  cases others with
  | nil => rfl
  | cons next rest =>
    have hagree : allAgree (separators (groupsBetween c first (next :: rest)).dropLast) = true :=
      allAgree_of_forall fun mark hmem => eq_of_mem_separators_groupsBetween
        (((List.dropLast_sublist _).filterMap _).subset hmem)
    have hlater := @length_of_mem_drop c first (next :: rest) hthree
    obtain ⟨second, more, hmore⟩ : ∃ second more, groupsBetween c next rest = second :: more := by
      cases rest <;> exact ⟨_, _, rfl⟩
    simp only [groupsBetween, hmore, List.drop_one, List.tail_cons] at hagree hlater ⊢
    simp only [wellGrouped, hfirst, hagree, decide_true, Bool.and_true, Bool.true_and,
      List.all_eq_true, beq_iff_eq]
    exact fun group hgroup => hlater hgroup

include hc in
/-- None of the separators of these groups is the decimal mark. -/
lemma decimalMark?_groupsBetween (format : NumberFormat) (first : List Char)
    (others : List (List Char)) : decimalMark? format (groupsBetween c first others) = none := by
  have hnone {mark : Char} (hmark : isDecimalDigit mark = false) :
      (separators (groupsBetween c first others)).count mark = 0 :=
    List.count_eq_zero.mpr fun hmem =>
      hc.ne hmark (eq_of_mem_separators_groupsBetween hmem).symm
  simp only [decimalMark?, hnone (by decide : isDecimalDigit '.' = false),
    hnone (by decide : isDecimalDigit ',' = false)]
  rfl

/-- Digits alone do not look like a date. -/
lemma looksLikeDate_eq_false {text : List Char} (h : ∀ d ∈ text, isDecimalDigit d = true) :
    looksLikeDate text = false := by
  have htrim : trim text = text :=
    Text.trim_of_forall fun d hd => Text.isBlank_of_isDecimalDigit (h d hd)
  have hmark {run rest : List Char} {mark : Char} (hmark : isDecimalDigit mark = false) :
      text ≠ run ++ mark :: rest := by
    rintro rfl
    rw [h mark (by simp)] at hmark
    cases hmark
  have hday {mark : Char} (hdigit : isDecimalDigit mark = false) :
      ¬ (dayFirstShape mark).spans text = true := by
    intro hspans
    simp only [dayFirstShape, Shape.spans_iff, Shape.mem_sequence_cons, Shape.mem_oneOrTwoDigits,
      Shape.mem_char] at hspans
    obtain ⟨_, ⟨run, -, -, htext⟩, _, rfl, -⟩ := hspans
    exact hmark hdigit htext
  have hyear : ¬ yearFirstShape.begins text = true := by
    intro hbegins
    simp only [yearFirstShape, Shape.begins_iff, Shape.mem_sequence_cons, Shape.digits,
      Shape.mem_times, Shape.mem_one, Bool.or_eq_true, beq_iff_eq] at hbegins
    obtain ⟨_, _, ⟨run, -, -, htext⟩, _, ⟨c, hc, rfl⟩, -⟩ := hbegins
    refine hmark ?_ htext
    rcases hc with (rfl | rfl) | rfl <;> decide
  simp [looksLikeDate, htrim, hday (by decide : isDecimalDigit '.' = false),
    hday (by decide : isDecimalDigit '/' = false), hyear]

/-- Digits alone are characters of amounts. -/
lemma hasAmountChars_of_forall {text : List Char} (hne : text ≠ [])
    (h : ∀ d ∈ text, isDecimalDigit d = true) : hasAmountChars text = true := by
  have hall : text.all isAmountChar = true := by
    rw [List.all_eq_true]
    intro d hd
    simp [isAmountChar, h d hd]
  unfold hasAmountChars
  split
  next rest => exact absurd (h '-' (by simp)) (by decide)
  next => simp [hne, hall]

/-- Digits alone are read without a sign. -/
lemma readTrimmed?_of_forall {format : NumberFormat} {text : List Char}
    (h : ∀ d ∈ text, isDecimalDigit d = true) :
    readTrimmed? format text = (parts? format text).map fun (whole, fraction) =>
      Number.ofParts false whole fraction 0 := by
  unfold readTrimmed?
  split
  next negative body hsign =>
    split at hsign
    next rest => exact absurd (h '-' (by simp)) (by decide)
    next =>
      cases hsign
      rfl

include hc

/-- **Groups of three digits with a foreign digit between them are an amount**, in every format. -/
theorem parts?_of_runs {first : List Char} {others : List (List Char)} (format : NumberFormat)
    (hdigits : ∀ run ∈ first :: others, ∀ d ∈ run, d.isDigit)
    (hfirst : 1 ≤ first.length ∧ first.length ≤ 3) (hthree : ∀ run ∈ others, run.length = 3) :
    parts? format (first ++ others.flatMap (c :: ·)) = some (first ++ others.flatten, []) := by
  have hflat : (groupsBetween c first others).flatMap Group.digits = first ++ others.flatten := by
    rw [List.flatMap_def, map_digits_groupsBetween, List.flatten_cons]
  have hne : first ++ others.flatten ++ [] ≠ [] := by
    have hpos : first ≠ [] := List.ne_nil_of_length_pos hfirst.1
    simp [hpos]
  rw [parts?, groups_of_runs hc hdigits]
  simp only [hasInnerGap_groupsBetween hthree, decimalMark?_groupsBetween hc, splitAt?,
    Option.bind_eq_bind, Option.bind_some, hflat, Bool.false_eq_true, if_false]
  exact if_pos ⟨wellGrouped_groupsBetween hfirst hthree, hne⟩

/-- **Groups of three digits with a foreign digit between them are read as a number**: that of the
digits without the foreign ones. -/
theorem read?_of_runs {first : List Char} {others : List (List Char)} (format : NumberFormat)
    (hdigits : ∀ run ∈ first :: others, ∀ d ∈ run, d.isDigit)
    (hfirst : 1 ≤ first.length ∧ first.length ≤ 3) (hthree : ∀ run ∈ others, run.length = 3) :
    read? format (String.ofList (first ++ others.flatMap (c :: ·))) =
      (some (Number.ofParts false (first ++ others.flatten) [] 0)).filter Float.isFinite := by
  obtain ⟨text, htext⟩ : ∃ text, text = first ++ others.flatMap (c :: ·) := ⟨_, rfl⟩
  have hall : ∀ d ∈ text, isDecimalDigit d = true := by
    intro d hd
    rw [htext, List.mem_append, List.mem_flatMap] at hd
    rcases hd with hd | ⟨run, hrun, hd⟩
    · exact Text.isDecimalDigit_of_isDigit (hdigits first (by simp) d hd)
    · rcases List.mem_cons.mp hd with rfl | hd
      · exact hc.isDecimalDigit
      · exact Text.isDecimalDigit_of_isDigit (hdigits run (by simp [hrun]) d hd)
  have htrim : trim text = text :=
    Text.trim_of_forall fun d hd => Text.isBlank_of_isDecimalDigit (hall d hd)
  have hne : text ≠ [] := by
    have hpos : first ≠ [] := List.ne_nil_of_length_pos hfirst.1
    simp [htext, hpos]
  have hany : text.any Char.isDigit = true := by
    obtain ⟨d, run, rfl⟩ := List.exists_cons_of_length_pos hfirst.1
    simp [htext, hdigits (d :: run) (by simp) d (by simp)]
  have hread : readTrimmed? format text =
      some (Number.ofParts false (first ++ others.flatten) [] 0) := by
    rw [readTrimmed?_of_forall hall, htext, parts?_of_runs hc format hdigits hfirst hthree]
    rfl
  rw [read?, String.toList_ofList, ← htext, htrim,
    if_pos ⟨hany, by simp [looksLikeDate_eq_false hall], hasAmountChars_of_forall hne hall⟩, hread]

end Between

end SheetFormula.Amount

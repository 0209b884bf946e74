import Mathlib.Data.String.Basic
import SheetFormula.Proofs.Json.Locality
import SheetFormula.Proofs.Json.Quoting
import SheetFormula.Service.Body
import SheetFormula.Service.Reply

/-!
# Bodies that are put together

A body can be put together of names and JSON texts, as a record. The text under a name describes the
same there as it does on its own, if it nests one level less deep than on its own it may: the body
itself is a level. So the fields in the body are those that the texts describe, in whatever order
they stand.

## Main definitions

* `SheetFormula.Service.described` — what a text describes inside of a body.
* `SheetFormula.Service.FieldForm.Reads` — the texts that may stand under a name.
* `SheetFormula.Service.EvaluateBody.IsMadeOf` — the fields of a request to evaluate a formula.

## Main results

* `SheetFormula.Service.exists_readField` — the value of a field that is such a text.
* `SheetFormula.Service.readBody_recordText` — the fields in a body that is put together.
* `SheetFormula.Service.CheckBody.read_recordText` — a body with a formula to check.
* `SheetFormula.Service.EvaluateBody.read_recordText` — a body with a formula, data and arguments.
-/

set_option relaxedAutoImplicit false
set_option autoImplicit false

namespace SheetFormula.Service

open SheetFormula.Json (Ends escaped readString? readValue readWithin? skipSpace)

/-! ## Values -/

/-- The value that a text describes inside of a body. -/
def described (text : String) : Json :=
  (readWithin? innerNesting text.toList).getD .null

/-- A text that describes a value of a form. -/
structure FieldForm.Reads (form : FieldForm) (text : String) : Prop where
  value : readWithin? innerNesting text.toList = some (described text)
  form : form.accepts (described text) = true

/-- What a text describes inside of a body is what it is read as. -/
lemma described_of_readWithin? {text : String} {data : Json}
    (h : readWithin? innerNesting text.toList = some data) : described text = data := by
  rw [described, h]
  rfl

/-- A text that describes a value of a form. -/
lemma reads_of_readWithin? {form : FieldForm} {text : String} {data : Json}
    (h : readWithin? innerNesting text.toList = some data) (hform : form.accepts data = true) :
    form.Reads text := by
  obtain rfl := described_of_readWithin? h
  exact ⟨h, hform⟩

/-- A value that is refused at its first character does not have the form. -/
lemma FieldForm.accepts_of_refuses {form : FieldForm} {c : Char} (hrefuses : form.refuses c = true)
    {fuel nesting : ℕ} {text rest : List Char} {value : Json}
    (h : readValue fuel nesting (c :: text) = some (value, rest)) : form.accepts value = false := by
  have hbracket : c = '[' → ∃ items, value = .array items := by
    rintro rfl
    rcases fuel with _ | fuel
    · simp [readValue] at h
    rcases nesting with _ | nesting
    · cases h
    rw [Json.readValue_bracket] at h
    split_ifs at h
    · cases h
      exact ⟨_, rfl⟩
    · obtain ⟨read, -, hread⟩ := Option.map_eq_some_iff.mp h
      cases hread
      exact ⟨_, rfl⟩
  have hbrace : c = '\x7b' → ∃ fields, value = .object fields := by
    rintro rfl
    rcases fuel with _ | fuel
    · simp [readValue] at h
    rcases nesting with _ | nesting
    · cases h
    rw [Json.readValue_brace] at h
    split_ifs at h
    · cases h
      exact ⟨_, rfl⟩
    · obtain ⟨read, -, hread⟩ := Option.map_eq_some_iff.mp h
      cases hread
      exact ⟨_, rfl⟩
  cases form with
  | text =>
    rcases (by simpa [refuses] using hrefuses : c = '[' ∨ c = '\x7b') with hc | hc
    · obtain ⟨items, rfl⟩ := hbracket hc
      rfl
    · obtain ⟨fields, rfl⟩ := hbrace hc
      rfl
  | data => cases hrefuses
  | fields =>
    obtain ⟨items, rfl⟩ := hbracket (by simpa [refuses] using hrefuses)
    rfl

/-- **The value of a field is what its text describes**, whatever else stands in the body. -/
theorem exists_readField {form : FieldForm} {text : String} (h : form.Reads text)
    {tail : List Char} (htail : Ends tail) :
    ∃ rest, readField form (skipSpace text.toList ++ tail) = .ok (described text, rest) ∧
      skipSpace rest = tail := by
  have hfuel : (skipSpace text.toList).length + 1 ≤ (skipSpace text.toList ++ tail).length + 1 := by
    simp
  obtain ⟨rest, hvalue, hrest⟩ := Json.exists_readValue_of_readWithin? h.value htail hfuel
  refine ⟨rest, ?_, hrest⟩
  have hfirst : ((skipSpace text.toList ++ tail).head?.any form.refuses) = false := by
    cases htext : skipSpace text.toList ++ tail with
    | nil => rfl
    | cons c more =>
      rw [htext] at hvalue
      by_contra hrefuses
      have hform := FieldForm.accepts_of_refuses (by simpa using hrefuses) hvalue
      rw [h.form] at hform
      cases hform
  rw [readField, hfirst, hvalue]
  simp [h.form]

/-- A quoted text describes itself. -/
lemma readWithin?_quote (nesting : ℕ) (text : String) :
    readWithin? nesting (Json.quote text).toList = some (.text text) := by
  have hspace : skipSpace (Json.quote text).toList = (Json.quote text).toList := by
    rw [Json.quote, String.toList_ofList]
    rfl
  refine Json.readWithin?_eq_some.mpr ⟨[], ?_, rfl⟩
  rw [hspace, Json.quote, String.toList_ofList, List.cons_append, readValue,
    Json.readString?_escaped text []]
  rfl

/-- A quoted text is a formula. -/
lemma reads_quote (text : String) : FieldForm.text.Reads (Json.quote text) :=
  reads_of_readWithin? (readWithin?_quote innerNesting text) rfl

/-! ## Objects -/

/-- A name and a text as they stand in an object. -/
def memberText (field : String × String) : List Char :=
  '"' :: field.1.toList.flatMap escaped ++ '"' :: ':' :: field.2.toList

/-- Names and texts as they stand in an object, to its end. -/
def membersText (fields : List (String × String)) : List Char :=
  [','].intercalate (fields.map memberText) ++ ['\x7d']

/-- An object is longer than it has fields. -/
lemma length_le_membersText (fields : List (String × String)) :
    fields.length ≤ (membersText fields).length := by
  induction fields with
  | nil => exact Nat.zero_le _
  | cons field others ih =>
    cases others with
    | nil => simp [membersText]
    | cons next others =>
      simp only [membersText, List.map_cons, List.intercalate_cons_cons, List.length_append,
        List.length_cons] at ih ⊢
      omega

/-- A record as a text. -/
lemma toList_recordText (fields : List (String × String)) :
    (recordText fields).toList = '\x7b' :: membersText fields := by
  have hmember : ∀ field : String × String,
      (Json.quote field.1 ++ ":" ++ field.2).toList = memberText field := by
    intro field
    simp [Json.quote, memberText]
  simp [recordText, membersText, String.toList_intercalate, Function.comp_def, hmember]

/-- What stands under a name is read as a field of the body. -/
lemma exists_readNamed {shape : BodyShape} {name text : String} {form : FieldForm}
    (hform : shape.lookup name = some form) (h : form.Reads text) {tail : List Char}
    (htail : Ends tail) :
    ∃ rest, readNamed shape name (':' :: text.toList ++ tail) =
        .ok ([(name, described text)], rest) ∧ skipSpace rest = tail := by
  obtain ⟨rest, hfield, hrest⟩ := exists_readField h htail
  refine ⟨rest, ?_, hrest⟩
  have hcolon : skipColon? (':' :: text.toList ++ tail) =
      some (skipSpace text.toList ++ tail) := by
    rw [← htail.skipSpace_append]
    rfl
  rw [readNamed, hcolon]
  dsimp only
  rw [hform]
  dsimp only
  rw [hfield]
  rfl

/-- A field is read, and then what stands behind it. -/
lemma readObject_memberText {shape : BodyShape} {field : String × String} {form : FieldForm}
    (hform : shape.lookup field.1 = some form) (h : form.Reads field.2) {read : Json.Fields}
    (hfresh : read.get? field.1 = none) (fuel : ℕ) : ∀ {tail : List Char}, Ends tail →
    readObject shape (fuel + 1) read (memberText field ++ tail) =
      match tail with
      | '\x7d' :: _ => .ok (read ++ [(field.1, described field.2)])
      | ',' :: rest =>
        readObject shape fuel (read ++ [(field.1, described field.2)]) (skipSpace rest)
      | _ => .error .notJson := by
  intro tail htail
  obtain ⟨rest, hnamed, hrest⟩ := exists_readNamed hform h htail
  have hname :
      readString? (field.1.toList.flatMap escaped ++ '"' :: (':' :: field.2.toList ++ tail)) =
        some (field.1, ':' :: field.2.toList ++ tail) := Json.readString?_escaped field.1 _
  have htext : memberText field ++ tail =
      '"' :: (field.1.toList.flatMap escaped ++ '"' :: (':' :: field.2.toList ++ tail)) := by
    simp [memberText]
  rw [htext, readObject, hname]
  dsimp only
  rw [hfresh, hnamed]
  subst hrest
  rfl

/-- **The fields of an object that is put together** are what the texts describe, behind those that
have been read before.

**Proof sketch.** Induction on the fields. Behind each of them stands a comma or the closing brace,
and its name is not among those that have been read. -/
lemma readObject_membersText {shape : BodyShape} {fields : List (String × String)}
    (hne : fields ≠ [])
    (hfields : ∀ field ∈ fields, ∃ form, shape.lookup field.1 = some form ∧ form.Reads field.2)
    (hnames : (fields.map Prod.fst).Nodup) {read : Json.Fields}
    (hread : ∀ field ∈ fields, read.get? field.1 = none) {fuel : ℕ}
    (hfuel : fields.length ≤ fuel) :
    readObject shape fuel read (membersText fields) =
      .ok (read ++ fields.map fun field => (field.1, described field.2)) := by
  induction fields generalizing read fuel with
  | nil => exact absurd rfl hne
  | cons field others ih =>
    obtain ⟨fuel, rfl⟩ : ∃ less, fuel = less + 1 := ⟨fuel - 1, by simp at hfuel; omega⟩
    obtain ⟨form, hform, hreads⟩ := hfields field List.mem_cons_self
    have hfresh := hread field List.mem_cons_self
    cases others with
    | nil =>
      have htail : Ends ['\x7d'] := by simp [Ends]
      have htext : membersText [field] = memberText field ++ ['\x7d'] := by simp [membersText]
      rw [htext, readObject_memberText hform hreads hfresh fuel htail]
      rfl
    | cons next others =>
      have htail : Ends (',' :: membersText (next :: others)) := by simp [Ends]
      have htext : membersText (field :: next :: others) =
          memberText field ++ ',' :: membersText (next :: others) := by
        simp [membersText]
      have hspace : skipSpace (membersText (next :: others)) = membersText (next :: others) := by
        cases others <;> simp [membersText, memberText, skipSpace, Json.isSpace]
      rw [htext, readObject_memberText hform hreads hfresh fuel htail]
      change readObject shape fuel _ (skipSpace (membersText (next :: others))) = _
      rw [List.map_cons, List.nodup_cons] at hnames
      rw [List.forall_mem_cons] at hfields hread
      rw [hspace, ih (List.cons_ne_nil _ _) hfields.2 hnames.2 ?_ (Nat.le_of_succ_le_succ hfuel)]
      · simp
      · intro other hother
        have hother' : other.1 ≠ field.1 := fun hsame =>
          hnames.1 (List.mem_map.mpr ⟨other, hother, hsame⟩)
        rw [Json.Fields.get?, List.lookup_append]
        simp [hother', show List.lookup other.1 read = none from hread.2 other hother]

/-- **The fields in a body that is put together** are what the texts describe. -/
theorem readBody_recordText {shape : BodyShape} {fields : List (String × String)}
    (hne : fields ≠ [])
    (hfields : ∀ field ∈ fields, ∃ form, shape.lookup field.1 = some form ∧ form.Reads field.2)
    (hnames : (fields.map Prod.fst).Nodup) :
    readBody shape (recordText fields) =
      .ok (fields.map fun field => (field.1, described field.2)) := by
  obtain ⟨first, others, rfl⟩ := List.exists_cons_of_ne_nil hne
  obtain ⟨rest, hrest⟩ : ∃ rest, membersText (first :: others) = '"' :: rest := by
    cases others <;> simp [membersText, memberText]
  have hlength : (first :: others).length ≤ (membersText (first :: others)).length + 1 :=
    Nat.le_succ_of_le (length_le_membersText _)
  have hnone : ∀ field ∈ first :: others, Json.Fields.get? [] field.1 = none := fun _ _ => rfl
  have hobject := readObject_membersText hne hfields hnames hnone hlength
  rw [List.nil_append, hrest] at hobject
  rw [readBody, toList_recordText, hrest]
  exact hobject

/-! ## Lengths -/

/-- A text has no fewer bytes than characters. -/
lemma length_le_utf8ByteSize (text : String) : text.length ≤ text.utf8ByteSize := by
  rw [← String.utf8Len_toList, ← String.length_toList]
  induction text.toList with
  | nil => exact Nat.zero_le _
  | cons c rest ih =>
    have hsize := c.utf8Size_pos
    rw [String.utf8Len_cons, List.length_cons]
    omega

/-- A quoted text is no shorter than the text. -/
lemma length_le_length_quote (text : String) : text.length ≤ (Json.quote text).length := by
  have hescaped := Json.length_le_flatMap_escaped text.toList
  rw [← String.length_toList, ← String.length_toList, Json.quote, String.toList_ofList]
  simp only [List.length_append, List.length_cons]
  omega

/-- An object is longer than each text in it. -/
lemma length_lt_membersText {fields : List (String × String)} {field : String × String}
    (h : field ∈ fields) : field.2.toList.length < (membersText fields).length := by
  induction fields with
  | nil => cases h
  | cons first others ih =>
    rcases List.mem_cons.mp h with rfl | hmem
    · cases others <;> simp [membersText, memberText] <;> omega
    · have hothers := ih hmem
      cases others with
      | nil => cases hmem
      | cons next others =>
        simp only [membersText, List.map_cons, List.intercalate_cons_cons, List.length_append]
          at hothers ⊢
        omega

/-- A body has more bytes than each text in it has characters. -/
lemma length_lt_utf8ByteSize_recordText {fields : List (String × String)} {name text : String}
    (h : (name, text) ∈ fields) : text.length < (recordText fields).utf8ByteSize := by
  refine Nat.lt_of_lt_of_le ?_ (length_le_utf8ByteSize _)
  rw [← String.length_toList, ← String.length_toList, toList_recordText, List.length_cons]
  exact Nat.lt_succ_of_lt (length_lt_membersText h)

/-! ## Requests -/

/-- Of fields with different names each is found under its name. -/
lemma lookup_of_mem {fields : List (String × String)} (hnames : (fields.map Prod.fst).Nodup)
    {field : String × String} (h : field ∈ fields) : fields.lookup field.1 = some field.2 := by
  induction fields with
  | nil => cases h
  | cons first others ih =>
    obtain ⟨hnew, hothers⟩ := List.nodup_cons.mp hnames
    rcases List.mem_cons.mp h with rfl | hmem
    · exact List.lookup_cons_self
    · have hne : field.1 ≠ first.1 := fun hsame => hnew (List.mem_map.mpr ⟨field, hmem, hsame⟩)
      rw [List.lookup_cons, beq_eq_false_iff_ne.mpr hne, ih hothers hmem]

/-- The value under a name is what the text under it describes. -/
lemma get?_map_described (fields : List (String × String)) (name : String) :
    Json.Fields.get? (fields.map fun field => (field.1, described field.2)) name =
      (fields.lookup name).map described := by
  induction fields with
  | nil => rfl
  | cons field others ih =>
    obtain ⟨first, text⟩ := field
    simp only [Json.Fields.get?, List.map_cons, List.lookup_cons] at ih ⊢
    cases name == first with
    | true => rfl
    | false => exact ih

/-- **A body with a formula is a request to check it.** -/
theorem CheckBody.read_recordText (expression : String) :
    CheckBody.read (recordText [("expression", Json.quote expression)]) = .ok ⟨expression⟩ := by
  have hdescribed : described (Json.quote expression) = .text expression :=
    described_of_readWithin? (readWithin?_quote innerNesting expression)
  have hbody : readBody [("expression", .text)]
      (recordText [("expression", Json.quote expression)]) =
        .ok [("expression", described (Json.quote expression))] := by
    refine readBody_recordText (List.cons_ne_nil _ _) (fun field hfield => ?_) (by simp)
    obtain rfl := List.mem_singleton.mp hfield
    exact ⟨.text, rfl, reads_quote expression⟩
  rw [CheckBody.read, hbody, hdescribed]
  rfl

namespace EvaluateBody

/-- Data is given by a text under a name, or is null where there is none. -/
inductive IsGiven : Option String → Json → Prop
  | absent : IsGiven none .null
  | text {text : String} {data : Json} (h : readWithin? innerNesting text.toList = some data) :
    IsGiven (some text) data

/-- Named arguments are given by a text under a name, and there are none without it or if it is
null. -/
inductive AreGiven : Option String → Json.Fields → Prop
  | absent : AreGiven none []
  | null {text : String} (h : readWithin? innerNesting text.toList = some .null) :
    AreGiven (some text) []
  | text {text : String} {named : Json.Fields}
    (h : readWithin? innerNesting text.toList = some (.object named)) : AreGiven (some text) named

/-- Fields make up a request to evaluate a formula: each stands under its name, in any order, and
those that are given describe the formula, the data and the named arguments. -/
structure IsMadeOf (fields : List (String × String)) (expression : String)
    (root localData : Json) (named : Json.Fields) : Prop where
  distinct : (fields.map Prod.fst).Nodup
  known : ∀ field ∈ fields, field.1 ∈ ["expression", "context", "local", "args"]
  expression : ∃ text, fields.lookup "expression" = some text ∧
    readWithin? innerNesting text.toList = some (.text expression)
  root : IsGiven (fields.lookup "context") root
  localData : IsGiven (fields.lookup "local") localData
  named : AreGiven (fields.lookup "args") named

variable {fields : List (String × String)} {expression name text : String} {root localData : Json}
  {named : Json.Fields}

/-- A text that gives data is one of any form. -/
lemma IsGiven.reads {data : Json} (h : IsGiven (some text) data) : FieldForm.data.Reads text := by
  cases h with
  | text h => exact reads_of_readWithin? h rfl

/-- A text that gives named arguments is an object or null. -/
lemma AreGiven.reads (h : AreGiven (some text) named) : FieldForm.fields.Reads text := by
  cases h with
  | null h => exact reads_of_readWithin? h rfl
  | text h => exact reads_of_readWithin? h rfl

/-- The texts of such fields have the forms of their names. -/
lemma IsMadeOf.reads (h : IsMadeOf fields expression root localData named)
    {field : String × String} (hfield : field ∈ fields) :
    ∃ form, List.lookup field.1 [("expression", FieldForm.text), ("context", .data),
      ("local", .data), ("args", .fields)] = some form ∧ form.Reads field.2 := by
  have hlookup := lookup_of_mem h.distinct hfield
  have hknown := h.known field hfield
  simp only [List.mem_cons, List.not_mem_nil, or_false] at hknown
  rcases hknown with hname | hname | hname | hname
  all_goals rw [hname] at hlookup ⊢
  · obtain ⟨text, htext, hread⟩ := h.expression
    obtain rfl := Option.some.inj (hlookup.symm.trans htext)
    exact ⟨.text, rfl, reads_of_readWithin? hread rfl⟩
  · exact ⟨.data, rfl, (hlookup ▸ h.root).reads⟩
  · exact ⟨.data, rfl, (hlookup ▸ h.localData).reads⟩
  · exact ⟨.fields, rfl, (hlookup ▸ h.named).reads⟩

/-- Data that is given under a name is that of the body, for which null is as good as none. -/
lemma IsGiven.optionalData_getD {data : Json} (h : IsGiven (fields.lookup name) data) :
    (optionalData (fields.map fun field => (field.1, described field.2)) name).getD .null =
      data := by
  have hvalue := get?_map_described fields name
  unfold optionalData
  generalize fields.lookup name = given at h hvalue
  cases h with
  | absent => rw [hvalue]; rfl
  | text h =>
    rw [hvalue, Option.map_some, described_of_readWithin? h]
    split
    next hnull => cases hnull; rfl
    next => rfl

/-- Named arguments that are given under a name are those of the body, and there are none if it has
none. -/
lemma AreGiven.optionalData_bind (h : AreGiven (fields.lookup name) named) :
    ((optionalData (fields.map fun field => (field.1, described field.2)) name).bind
      Json.fields?).getD [] = named := by
  have hvalue := get?_map_described fields name
  unfold optionalData
  generalize fields.lookup name = given at h hvalue
  cases h with
  | absent => rw [hvalue]; rfl
  | null h => rw [hvalue, Option.map_some, described_of_readWithin? h]; rfl
  | text h => rw [hvalue, Option.map_some, described_of_readWithin? h]; rfl

/-- **A body that is put together of such fields** has the formula, the data and the named arguments
that they give. -/
theorem read_recordText (h : IsMadeOf fields expression root localData named) :
    ∃ body, EvaluateBody.read (recordText fields) = .ok body ∧ body.expression = expression ∧
      body.context.getD .null = root ∧ body.localData.getD .null = localData ∧
      body.named.getD [] = named := by
  obtain ⟨text, htext, hread⟩ := h.expression
  have hne : fields ≠ [] := by
    rintro rfl
    cases htext
  have hbody := readBody_recordText hne (fun field => h.reads) h.distinct
  have hrequired : requiredText (fields.map fun field => (field.1, described field.2))
      "expression" = .ok expression := by
    rw [requiredText, get?_map_described, htext, Option.map_some, described_of_readWithin? hread]
  let read : Json.Fields := fields.map fun field => (field.1, described field.2)
  refine ⟨⟨expression, optionalData read "context", optionalData read "local",
    (optionalData read "args").bind Json.fields?⟩, ?_, rfl, h.root.optionalData_getD,
    h.localData.optionalData_getD, h.named.optionalData_bind⟩
  rw [EvaluateBody.read, hbody]
  simp only [hrequired, bind, Except.bind]
  rfl

end EvaluateBody

end SheetFormula.Service

import SheetFormula.CommandLine.Run
import SheetFormula.Proofs.Formula.Soundness
import SheetFormula.Proofs.Json.Locality
import SheetFormula.Proofs.Scope.Merging
import SheetFormula.Service.Respond

/-!
# The sources of commands and requests

Objects that are read from JSON or YAML have their fields in the order of the names, whatever the
text says. So each name stands once in the sources that a command or a request puts together, and
the layers of these sources act as one object.

## Main definitions

* `SheetFormula.Json.IsOrderly` — data that, as an object, has its fields in order.

## Main results

* `SheetFormula.CommandLine.isOrderly_of_loadData` — the data in files is orderly.
* `SheetFormula.Service.isOrderly_of_readBody` — the data in bodies is orderly.
* `SheetFormula.Sources.distinct_of_prepare`, `SheetFormula.Sources.distinct_of_read` — the sources
  of commands and of requests give each name once.
-/

set_option relaxedAutoImplicit false
set_option autoImplicit false

namespace SheetFormula

open SheetFormula.Formula (of_bind_eq_ok)
open SheetFormula.Json (Fields)

/-! ## Results -/

/-- Where what comes from a result is no failure, the result is none. -/
lemma of_map_eq_ok {ε α β : Type} {result : Except ε α} {f : α → β} {value : β}
    (h : result.map f = .ok value) : ∃ given, result = .ok given ∧ f given = value := by
  cases result with
  | error fault => cases h
  | ok given => exact ⟨given, rfl, Except.ok.inj h⟩

/-- Where what stands for nothing is a failure, a result is what was found. -/
lemma eq_some_of_getD_eq_ok {ε α : Type} {found : Option α} {fault : ε} {value : α}
    (h : (found.map Except.ok).getD (.error fault) = .ok value) : found = some value := by
  cases found with
  | none => cases h
  | some other =>
    cases h
    rfl

/-! ## Data -/

namespace Json

/-- If the data is an object, its fields are in order. -/
def IsOrderly (data : Json) : Prop :=
  ∀ fields ∈ data.fields?, Fields.InOrder fields

/-- Data without fields is orderly. -/
lemma isOrderly_of_fields?_eq_none {data : Json} (h : data.fields? = none) : data.IsOrderly := by
  intro fields hfields
  rw [h] at hfields
  cases hfields

/-- Objects of collected fields are orderly. -/
lemma isOrderly_object (list : List (String × Json)) :
    (object (Fields.ofList list)).IsOrderly := by
  intro fields hfields
  obtain rfl := Option.some.inj hfields
  exact Fields.inOrder_ofList list

/-- A number has no fields. -/
lemma fields?_of_value? {number : NumberText} {data : Json} (h : number.value? = some data) :
    data.fields? = none := by
  grind [NumberText.value?, whole?, fields?, Option.map_eq_some_iff]

/-- **What is read is orderly.** -/
theorem isOrderly_of_readValue {fuel nesting : ℕ} {text rest : List Char} {value : Json}
    (h : readValue fuel nesting text = some (value, rest)) : value.IsOrderly := by
  rw [readValue.eq_def] at h
  cases fuel with
  | zero => cases h
  | succ fuel =>
    dsimp only at h
    split at h
    next => cases h
    next => cases h; exact isOrderly_of_fields?_eq_none rfl
    next => cases h; exact isOrderly_of_fields?_eq_none rfl
    next => cases h; exact isOrderly_of_fields?_eq_none rfl
    next =>
      obtain ⟨read, -, h⟩ := Option.map_eq_some_iff.mp h
      cases h
      exact isOrderly_of_fields?_eq_none rfl
    next =>
      split at h
      next => cases h
      next =>
        split at h
        next => cases h; exact isOrderly_of_fields?_eq_none rfl
        next =>
          obtain ⟨read, -, h⟩ := Option.map_eq_some_iff.mp h
          cases h
          exact isOrderly_of_fields?_eq_none rfl
    next =>
      split at h
      next => cases h
      next =>
        split at h
        next => cases h; exact isOrderly_object []
        next =>
          obtain ⟨read, -, h⟩ := Option.map_eq_some_iff.mp h
          cases h
          exact isOrderly_object read.1
    next =>
      obtain ⟨⟨number, after⟩, -, h⟩ := Option.bind_eq_some_iff.mp h
      obtain ⟨data, hdata, h⟩ := Option.bind_eq_some_iff.mp h
      cases h
      exact isOrderly_of_fields?_eq_none (fields?_of_value? hdata)

/-- A text describes orderly data. -/
lemma isOrderly_of_read? {text : List Char} {data : Json} (h : read? text = some data) :
    data.IsOrderly := by
  unfold read? at h
  split at h
  next value rest hhead =>
    split_ifs at h
    cases h
    exact isOrderly_of_readValue hhead
  next => cases h

end Json

namespace Yaml

/-- A scalar has no fields. -/
lemma fields?_of_scalarData? {tag : Option String} {text : String} {plain : Bool} {data : Json}
    (h : scalarData? tag text plain = some data) : data.fields? = none := by
  cases tag with
  | some tag =>
    grind [scalarData?, taggedData?, integerData?, floatData, Json.fields?,
      Option.map_eq_some_iff, Option.bind_eq_some_iff]
  | none =>
    cases hfloat : float? text <;>
      grind [scalarData?, plainData?, integerData?, floatData, Json.fields?]

/-- **The data of a node is orderly.** -/
theorem Document.isOrderly_of_dataOf? {document : Document} {depth : ℕ} {node : Node Nat}
    {aliases left : ℕ} {data : Json}
    (h : document.dataOf? depth node aliases = some (data, left)) : data.IsOrderly := by
  rw [dataOf?.eq_def] at h
  obtain ⟨aliases, -, h⟩ := Option.bind_eq_some_iff.mp h
  obtain ⟨followed, -, h⟩ := Option.bind_eq_some_iff.mp h
  unfold contentOf? at h
  split at h
  next =>
    obtain ⟨scalar, hscalar, h⟩ := Option.map_eq_some_iff.mp h
    cases h
    exact Json.isOrderly_of_fields?_eq_none (fields?_of_scalarData? hscalar)
  next =>
    obtain ⟨read, -, h⟩ := Option.bind_eq_some_iff.mp h
    split_ifs at h
    cases h
    exact Json.isOrderly_of_fields?_eq_none rfl
  next =>
    obtain ⟨read, -, h⟩ := Option.bind_eq_some_iff.mp h
    split_ifs at h
    cases h
    exact Json.isOrderly_object read.1
  next => cases h

end Yaml

/-! ## Sources -/

/-- Sources of orderly data and of arguments in order give each name once. -/
lemma Sources.distinct_of_isOrderly {sources : Sources}
    (hlocal : ∀ data ∈ sources.localData, data.IsOrderly) (hnamed : sources.named.InOrder) :
    sources.Distinct := by
  refine ⟨?_, hnamed.distinct⟩
  unfold fieldsOf
  cases hfields : sources.localData.bind Json.fields? with
  | none => exact List.nodup_nil
  | some fields =>
    obtain ⟨data, hdata, hfields⟩ := Option.bind_eq_some_iff.mp hfields
    exact (hlocal data hdata fields hfields).distinct

/-! ### Commands -/

namespace CommandLine

/-- **The data in a file is orderly**, be it JSON or YAML. -/
theorem isOrderly_of_loadData {files : Files} {name : String} {data : Json}
    (h : loadData files name = .ok data) : data.IsOrderly := by
  obtain ⟨text, -, h⟩ := of_bind_eq_ok h
  split_ifs at h
  · unfold readYaml at h
    split at h
    next => cases h
    next => cases h; exact Json.isOrderly_of_fields?_eq_none rfl
    next document _ =>
      obtain ⟨read, hread, rfl⟩ := Option.map_eq_some_iff.mp (eq_some_of_getD_eq_ok h)
      exact Yaml.Document.isOrderly_of_dataOf? hread
  · exact Json.isOrderly_of_read? (eq_some_of_getD_eq_ok h)

/-- Named arguments are in order. -/
lemma inOrder_of_argumentsOf {options : EvaluateOptions} {named : Fields}
    (h : argumentsOf options = .ok named) : named.InOrder := by
  obtain ⟨given, hgiven, h⟩ := of_bind_eq_ok h
  have hinOrder : given.InOrder := by
    obtain ⟨list, -, rfl⟩ := of_map_eq_ok hgiven
    exact Fields.inOrder_ofList list
  split at h
  next => cases h; exact hinOrder.insert _ _
  next => cases h; exact hinOrder

/-- The data in an optional file is orderly. -/
lemma isOrderly_of_loadOptional {files : Files} {name : Option String} {loaded : Option Json}
    (h : loadOptional files name = .ok loaded) : ∀ data ∈ loaded, data.IsOrderly := by
  cases name with
  | none =>
    cases h
    exact nofun
  | some name =>
    obtain ⟨data, hdata, rfl⟩ := of_map_eq_ok h
    rintro _ ⟨⟩
    exact isOrderly_of_loadData hdata

end CommandLine

/-- **The sources of a command give each name once.** -/
theorem Sources.distinct_of_prepare {zones : ZoneDatabase} {files : CommandLine.Files}
    {options : CommandLine.EvaluateOptions} {calculator : Calculator} {sources : Sources}
    (h : CommandLine.prepare zones files options = .ok (calculator, sources)) :
    sources.Distinct := by
  obtain ⟨configuration, -, h⟩ := of_bind_eq_ok h
  obtain ⟨found, -, h⟩ := of_bind_eq_ok h
  obtain ⟨rootData, -, h⟩ := of_bind_eq_ok h
  obtain ⟨localData, hlocal, h⟩ := of_bind_eq_ok h
  obtain ⟨named, hnamed, h⟩ := of_bind_eq_ok h
  cases h
  exact distinct_of_isOrderly (CommandLine.isOrderly_of_loadOptional hlocal)
    (CommandLine.inOrder_of_argumentsOf hnamed)

/-! ### Requests -/

namespace Service

/-- The value of a field is orderly. -/
lemma isOrderly_of_readField {form : FieldForm} {text rest : List Char} {value : Json}
    (h : readField form text = .ok (value, rest)) : value.IsOrderly := by
  unfold readField at h
  split_ifs at h
  split at h
  next => cases h
  next value' rest' hvalue =>
    split_ifs at h
    cases h
    exact Json.isOrderly_of_readValue hvalue

/-- The value under a name is orderly. -/
lemma isOrderly_of_readNamed {shape : BodyShape} {name : String} {text rest : List Char}
    {read : Fields} (h : readNamed shape name text = .ok (read, rest)) :
    ∀ field ∈ read, field.2.IsOrderly := by
  unfold readNamed at h
  split at h
  next => cases h
  next =>
    split at h
    next =>
      obtain ⟨found, hfound, h⟩ := of_map_eq_ok h
      cases h
      exact List.forall_mem_singleton.mpr (isOrderly_of_readField hfound)
    next =>
      split at h
      · cases h
        exact fun field hfield => absurd hfield List.not_mem_nil
      · cases h

/-- The values in an object are orderly, if those are that were read before. -/
lemma isOrderly_of_readObject {shape : BodyShape} {fuel : ℕ} {read fields : Fields}
    {text : List Char} (hread : ∀ field ∈ read, field.2.IsOrderly)
    (h : readObject shape fuel read text = .ok fields) : ∀ field ∈ fields, field.2.IsOrderly := by
  induction fuel generalizing read text with
  | zero => cases h
  | succ fuel ih =>
    rw [readObject.eq_def] at h
    split at h
    next less rest hfuel =>
      cases hfuel
      split at h
      next => cases h
      next name after _ =>
        split_ifs at h
        split at h
        next => cases h
        next field behind hfield =>
          have hboth := List.forall_mem_append.mpr ⟨hread, isOrderly_of_readNamed hfield⟩
          split at h
          next => cases h; exact hboth
          next => exact ih hboth h
          next => cases h
    next => cases h

/-- The values in an array are orderly. -/
lemma isOrderly_of_readArray {first : Bool} {shape : BodyShape} {text : List Char}
    {fields : Fields} (h : readArray first shape text = .ok fields) :
    ∀ field ∈ fields, field.2.IsOrderly := by
  induction shape generalizing first text fields with
  | nil =>
    rw [readArray] at h
    split_ifs at h
    cases h
    exact fun field hfield => absurd hfield List.not_mem_nil
  | cons field shape ih =>
    rw [readArray] at h
    obtain ⟨next, -, h⟩ := of_bind_eq_ok h
    split at h
    next =>
      split_ifs at h
      cases h
      exact fun field hfield => absurd hfield List.not_mem_nil
    next =>
      obtain ⟨⟨value, rest⟩, hvalue, h⟩ := of_bind_eq_ok h
      obtain ⟨others, hothers, h⟩ := of_bind_eq_ok h
      cases h
      exact List.forall_mem_cons.mpr ⟨isOrderly_of_readField hvalue, ih hothers⟩

/-- **The values in a body are orderly.** -/
theorem isOrderly_of_readBody {shape : BodyShape} {body : String} {fields : Fields}
    (h : readBody shape body = .ok fields) : ∀ field ∈ fields, field.2.IsOrderly := by
  have hnone : ∀ field ∈ ([] : Fields), field.2.IsOrderly :=
    fun field hfield => absurd hfield List.not_mem_nil
  unfold readBody at h
  split at h
  next =>
    split at h
    next =>
      cases h
      exact hnone
    next => exact isOrderly_of_readObject hnone h
  next => exact isOrderly_of_readArray h
  next =>
    obtain ⟨found, -, rfl⟩ := of_map_eq_ok h
    exact hnone

/-- An optional field of a body is orderly. -/
lemma isOrderly_of_optionalData {fields : Fields} (h : ∀ field ∈ fields, field.2.IsOrderly)
    (name : String) : ∀ data ∈ optionalData fields name, data.IsOrderly := by
  intro data hdata
  have hget : fields.get? name = some data := by
    unfold optionalData at hdata
    split at hdata
    next => cases hdata
    next => exact hdata
  obtain ⟨before, after, rfl, -⟩ := List.lookup_eq_some_iff.mp hget
  exact h (name, data) (by simp)

end Service

/-- **The sources of a request give each name once.** -/
theorem Sources.distinct_of_read {body : String} {request : Service.EvaluateBody}
    (h : Service.EvaluateBody.read body = .ok request) :
    Sources.Distinct { rootData := request.context, localData := request.localData,
                       named := request.named.getD [] } := by
  obtain ⟨fields, hfields, h⟩ := of_bind_eq_ok h
  obtain ⟨expression, -, h⟩ := of_bind_eq_ok h
  cases h
  have hdata := Service.isOrderly_of_optionalData (Service.isOrderly_of_readBody hfields)
  refine distinct_of_isOrderly (hdata "local") ?_
  cases hnamed : (Service.optionalData fields "args").bind Json.fields? with
  | none => exact .nil
  | some named =>
    obtain ⟨data, hargs, hnamed⟩ := Option.bind_eq_some_iff.mp hnamed
    exact hdata "args" data hargs named hnamed

end SheetFormula

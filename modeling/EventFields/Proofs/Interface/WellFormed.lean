import EventFields.Interface.Json
import EventFields.Proofs.Json.Distinct
import EventFields.Proofs.Json.Reading
import EventFields.Proofs.SortedMap
import EventFields.Proofs.TypeRef.RoundTrip

/-!
# Well-formed models

In a model that has been read from JSON every type is well-formed, and every element
value of an annotation is of the kind under which it is read again.  Both hold of the
defaults of absent fields too, so they hold of whatever form the records have.
-/

namespace EventFields

open Json (Reader Schema Slot)

/-! ## What is well-formed -/

/-- Values that are neither texts nor lists of texts have distinct keys. -/
def ElementValue.WellFormed : ElementValue → Prop
  | single _ | list _ => True
  | other value => value.distinct = value ∧ ofJson value = other value

def Annotation.WellFormed (tag : Annotation) : Prop :=
  ∀ entry ∈ tag.elements.entries, entry.2.WellFormed

def Parameter.WellFormed (parameter : Parameter) : Prop :=
  parameter.type.WellFormed

structure Method.WellFormed (method : Method) : Prop where
  parameters : ∀ parameter ∈ method.parameters, parameter.WellFormed
  returnType : method.returnType.WellFormed
  annotations : ∀ tag ∈ method.annotations, tag.WellFormed

structure Interface.WellFormed (interface : Interface) : Prop where
  annotations : ∀ tag ∈ interface.annotations, tag.WellFormed
  methods : ∀ method ∈ interface.methods, method.WellFormed

def SourceModel.WellFormed (model : SourceModel) : Prop :=
  ∀ interface ∈ model.interfaces, interface.WellFormed

/-- The model has been read, from a value or from a text. -/
def SourceModel.Loaded (model : SourceModel) : Prop :=
  (∃ value, ofJson value = .ok model) ∨ ∃ text, ofText text = .ok model

/-! ## Element values -/

namespace ElementValue

theorem ofJson_eq_other {value held : Json} (read : ofJson value = other held) :
    held = value := by
  unfold ofJson at read
  split at read
  · cases read
  · split at read <;> cases read
    rfl
  · cases read
    rfl

theorem wellFormed_ofJson {value : Json} (settled : value.distinct = value) :
    (ofJson value).WellFormed := by
  cases read : ofJson value with
  | single _ => trivial
  | list _ => trivial
  | other held =>
      obtain rfl := ofJson_eq_other read
      exact ⟨settled, read⟩

theorem ensures_reader : reader.Ensures WellFormed := by
  intro draft value read
  unfold reader at read
  split at read
  · cases read
    exact wellFormed_ofJson (Json.distinct_distinct _)
  · cases read

end ElementValue

/-! ## Records -/

theorem TypeRef.wellFormed_void : void.WellFormed := by
  have undelimited : "void".toList.all (fun c => !isDelimiter c) = true := by decide
  refine wellFormed_mk.2 ⟨⟨by decide, by decide, fun c member => ?_⟩, by simp⟩
  simpa using List.all_eq_true.1 undelimited c member

theorem Annotation.ensures_elements :
    (Reader.map .empty writeElement).Ensures fun elements =>
      ∀ entry ∈ elements.entries, entry.2.WellFormed := by
  apply Reader.ensures_map
  · simp [SortedMap.empty]
  · intro elements name draft next before wrote entry member
    unfold writeElement at wrote
    split at wrote
    · next value read =>
      cases wrote
      rcases SortedMap.mem_of_mem_insert member with rfl | earlier
      · exact ElementValue.ensures_reader draft value read
      · exact before entry earlier
    · cases wrote

theorem Annotation.ensures_schema : schema.reader.Ensures WellFormed := by
  refine Schema.ensures (fun parts : Parts => ∀ entry ∈ parts.elements.entries,
    entry.2.WellFormed) ?start ?keeps ?finish
  · simp [schema, SortedMap.empty]
  · simp only [schema, List.forall_mem_cons]
    refine ⟨?typeName, ?elements, by simp⟩
    case typeName =>
      exact Slot.keeps_of_forall fun _ _ before => before
    case elements =>
      exact Slot.keeps_of ensures_elements fun _ _ _ wellFormed => wellFormed
  · intro parts tag known finished
    simp only [schema] at finished
    split at finished <;> cases finished
    exact known

theorem Parameter.ensures_schema : schema.reader.Ensures WellFormed := by
  refine Schema.ensures (fun parts : Parts => ∀ type, parts.type? = some type →
    type.WellFormed) ?start ?keeps ?finish
  · simp [schema]
  · simp only [schema, List.forall_mem_cons]
    refine ⟨?name, ?type, by simp⟩
    case name =>
      exact Slot.keeps_of_forall fun _ _ before => before
    case type =>
      refine Slot.keeps_of Reader.ensures_type fun _ _ _ wellFormed _ known => ?_
      cases known
      exact wellFormed
  · intro parts parameter known finished
    simp only [schema] at finished
    split at finished <;> cases finished
    exact known _ ‹_›

/-- What is known of a method while it is read, its defaults included. -/
structure Method.Parts.WellFormed (parts : Method.Parts) : Prop where
  parameters : ∀ parameter ∈ parts.parameters, parameter.WellFormed
  returnType : parts.returnType.WellFormed
  annotations : ∀ tag ∈ parts.annotations, tag.WellFormed

theorem Method.ensures_schema : schema.reader.Ensures WellFormed := by
  refine Schema.ensures Parts.WellFormed ?start ?keeps ?finish
  · exact ⟨by simp [schema], TypeRef.wellFormed_void, by simp [schema]⟩
  · simp only [schema, List.forall_mem_cons]
    refine ⟨?name, ?parameters, ?returnType, ?annotations, by simp⟩
    case name =>
      exact Slot.keeps_of_forall fun _ _ before =>
        ⟨before.parameters, before.returnType, before.annotations⟩
    case parameters =>
      exact Slot.keeps_of Parameter.ensures_schema.list fun _ _ before parameters =>
        { before with parameters }
    case returnType =>
      exact Slot.keeps_of Reader.ensures_type fun _ _ before returnType =>
        { before with returnType }
    case annotations =>
      exact Slot.keeps_of Annotation.ensures_schema.list fun _ _ before annotations =>
        { before with annotations }
  · intro parts method known finished
    simp only [schema] at finished
    split at finished <;> cases finished
    exact ⟨known.parameters, known.returnType, known.annotations⟩

/-- What is known of an interface while it is read. -/
structure Interface.Parts.WellFormed (parts : Interface.Parts) : Prop where
  annotations : ∀ tag ∈ parts.annotations, tag.WellFormed
  methods : ∀ method ∈ parts.methods, method.WellFormed

theorem Interface.ensures_schema : schema.reader.Ensures WellFormed := by
  refine Schema.ensures Parts.WellFormed ?start ?keeps ?finish
  · exact ⟨by simp [schema], by simp [schema]⟩
  · simp only [schema, List.forall_mem_cons]
    refine ⟨?qualifiedName, ?sourceFile, ?annotations, ?methods, by simp⟩
    case qualifiedName =>
      exact Slot.keeps_of_forall fun _ _ before =>
        ⟨before.annotations, before.methods⟩
    case sourceFile =>
      exact Slot.keeps_of_forall fun _ _ before =>
        ⟨before.annotations, before.methods⟩
    case annotations =>
      exact Slot.keeps_of Annotation.ensures_schema.list fun _ _ before annotations =>
        { before with annotations }
    case methods =>
      exact Slot.keeps_of Method.ensures_schema.list fun _ _ before methods =>
        { before with methods }
  · intro parts interface known finished
    simp only [schema] at finished
    split at finished <;> cases finished
    exact ⟨known.annotations, known.methods⟩

theorem SourceModel.ensures_schema : schema.reader.Ensures WellFormed := by
  refine Schema.ensures WellFormed ?start ?keeps ?finish
  · simp [schema, WellFormed]
  · simp only [schema, List.forall_mem_cons]
    refine ⟨?interfaces, by simp⟩
    exact Slot.keeps_of Interface.ensures_schema.list fun _ _ _ wellFormed => wellFormed
  · intro state model known finished
    cases finished
    exact known

/-- Every model that has been read is well-formed. -/
theorem SourceModel.Loaded.wellFormed {model : SourceModel} (loaded : model.Loaded) :
    model.WellFormed := by
  rcases loaded with ⟨value, read⟩ | ⟨text, read⟩
  · exact ensures_schema value.draft model read
  · simp only [ofText, Json.readText] at read
    split at read
    · cases read
    · next readDraft =>
      split at read <;> cases read
      exact ensures_schema _ model readDraft

end EventFields

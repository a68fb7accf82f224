import EventFields.Proofs.Interface.WellFormed
import EventFields.Proofs.Json.Spelling

/-!
# Models written and read again

A record is written as an object that leaves out what is empty, and what is left out
is read as empty.  Types go through their printed forms, and element values through
plain values without a mark of their kind.  None of this loses anything of a model
that is well-formed; hence a model that has been read, in whatever form, is what is
read from its own writing.
-/

namespace EventFields

open Json (Reader Schema)

/-! ## Element values -/

namespace ElementValue

theorem allTexts?_map_str (texts : List String) : allTexts? (texts.map .str) = some texts := by
  induction texts with
  | nil => rfl
  | cons text rest ih => simp [allTexts?, ih]

/-- What is written of a value has distinct keys, and is read as the same kind. -/
theorem WellFormed.ofJson_distinct_toJson {value : ElementValue} (wellFormed : value.WellFormed) :
    ofJson value.toJson.distinct = value := by
  cases value with
  | single text => rfl
  | list texts =>
      have settled : (Json.arr (texts.map .str)).distinct = .arr (texts.map .str) :=
        Json.distinct_arr_eq (by simp [Json.distinct])
      rw [toJson, settled, ofJson, allTexts?_map_str]
  | other value =>
      obtain ⟨settled, sameKind⟩ := wellFormed
      rw [toJson, settled, sameKind]

theorem WellFormed.reads {value : ElementValue} (wellFormed : value.WellFormed) :
    reader.Reads value.toJson value := by
  intro draft held
  rw [reader, show draft.value? = some value.toJson from held]
  exact congrArg Except.ok wellFormed.ofJson_distinct_toJson

end ElementValue

/-! ## Records -/

namespace Annotation

theorem reads_elements {elements : SortedMap String ElementValue}
    (wellFormed : ∀ entry ∈ elements.entries, entry.2.WellFormed) :
    (Reader.map .empty writeElement).Reads (elementsToJson elements) elements := by
  have reads : (Reader.map .empty writeElement).Reads (elementsToJson elements)
      (.ofList elements.entries) :=
    Reader.reads_map fun entry member written draft held => by
      rw [writeElement, (wellFormed entry member).reads draft held]
  rwa [elements.ofList_entries] at reads

theorem WellFormed.reads {tag : Annotation} (wellFormed : tag.WellFormed) :
    schema.reader.Reads tag.toJson tag := by
  obtain ⟨typeName, elements⟩ := tag
  refine Schema.reads_obj ⟨some typeName, elements⟩ ?members rfl
  refine .cons rfl (by simp) (Reader.reads_text _ typeName) ?_
  split
  · next empty =>
    have none : elements = .empty := SortedMap.ext (List.isEmpty_iff.1 empty)
    rw [none]
    exact .nil
  · exact .cons rfl (by simp) (reads_elements wellFormed) .nil

end Annotation

theorem Parameter.WellFormed.reads {parameter : Parameter} (wellFormed : parameter.WellFormed) :
    schema.reader.Reads parameter.toJson parameter := by
  obtain ⟨name, type⟩ := parameter
  refine Schema.reads_obj ⟨some name, some type⟩ ?members rfl
  refine .cons rfl (by simp) (Reader.reads_text _ name) ?_
  exact .cons rfl (by simp) (Reader.reads_type wellFormed) .nil

namespace Json.Schema

variable {σ α : Type} {schema : Schema σ α} {state : σ} {seen : List String}
  {write : σ → List Annotation → σ} {annotations : List Annotation}

/-- Annotations that are left out are read as none, which is what there is before. -/
theorem ReadsMembers.annotations_append
    (found : schema.slots.find? (·.name = "annotations") =
      some (.of "annotations" (.list Annotation.schema.reader) write))
    (fresh : "annotations" ∉ seen) (wellFormed : ∀ tag ∈ annotations, tag.WellFormed)
    (absent : write state [] = state) {members : List (String × Json)} {final : σ}
    (others : ∀ seen' ⊆ "annotations" :: seen,
      schema.ReadsMembers (write state annotations) seen' members final) :
    schema.ReadsMembers state seen (annotationsMember annotations ++ members) final := by
  unfold annotationsMember
  split
  · next empty =>
    rw [List.isEmpty_iff.1 empty, absent] at others
    exact others seen (List.subset_cons_self _ _)
  · exact .cons found fresh (Reader.reads_list fun tag member => (wellFormed tag member).reads)
      (others _ (List.Subset.refl _))

end Json.Schema

theorem Method.WellFormed.reads {method : Method} (wellFormed : method.WellFormed) :
    schema.reader.Reads method.toJson method := by
  obtain ⟨name, parameters, returnType, annotations⟩ := method
  refine Schema.reads_obj ⟨some name, parameters, returnType, annotations⟩ ?members rfl
  refine .cons rfl (by simp) (Reader.reads_text _ name) ?_
  refine .cons rfl (by simp)
    (Reader.reads_list fun parameter member => (wellFormed.parameters parameter member).reads) ?_
  refine .cons rfl (by simp) (Reader.reads_type wellFormed.returnType) ?_
  rw [← List.append_nil (annotationsMember annotations)]
  exact .annotations_append rfl (by simp) wellFormed.annotations rfl fun _ _ => .nil

theorem Interface.WellFormed.reads {interface : Interface} (wellFormed : interface.WellFormed) :
    schema.reader.Reads interface.toJson interface := by
  obtain ⟨qualifiedName, sourceFile, annotations, methods⟩ := interface
  refine Schema.reads_obj ⟨some qualifiedName, sourceFile, annotations, methods⟩ ?members rfl
  have others (seen : List String) (fresh : "annotations" ∉ seen ∧ "methods" ∉ seen) :
      schema.ReadsMembers ⟨some qualifiedName, sourceFile, [], []⟩ seen
        (annotationsMember annotations ++ [("methods", .arr (methods.map (·.toJson)))])
        ⟨some qualifiedName, sourceFile, annotations, methods⟩ := by
    refine .annotations_append rfl fresh.1 wellFormed.annotations rfl fun seen' among => ?_
    refine .cons rfl (fun member => ?_)
      (Reader.reads_list fun method member => (wellFormed.methods method member).reads) .nil
    simpa [fresh.2] using among member
  rw [List.append_assoc, List.append_assoc]
  refine .cons rfl (by simp) (Reader.reads_name qualifiedName) ?_
  cases sourceFile with
  | none => exact others _ (by simp)
  | some path =>
      exact .cons rfl (by simp)
        (Reader.reads_optional (Reader.reads_text _ path) (by simp)) (others _ (by simp))

theorem SourceModel.WellFormed.reads {model : SourceModel} (wellFormed : model.WellFormed) :
    schema.reader.Reads model.toJson model := by
  obtain ⟨interfaces⟩ := model
  refine Schema.reads_obj ⟨interfaces⟩ ?members rfl
  exact .cons rfl (by simp)
    (Reader.reads_list fun interface member => (wellFormed interface member).reads) .nil

/-! ## Models -/

/-! The sample is written as arrays and objects, with an unknown key, absent fields, a
type with surplus blanks and element values of every kind. -/

namespace Sample

def formsValue : Json :=
  .arr [.arr [.obj [("line", .int 3), ("qualified_name", .str "org.example.Forms"),
    ("methods", .arr [
      .arr [.str "getFoo"],
      .obj [("return_type", .str "Map<K,V >"), ("name", .str "getBar"), ("annotations", .arr [
        .arr [.str "Tag", .obj [("b", .arr [.str "x"]), ("c", .arr [.null]),
          ("a", .str "y")]]])]])]]]

/-- The model that the value stands for. -/
def forms : SourceModel where
  interfaces := [{
    qualifiedName := ⟨"org.example.Forms", by decide⟩
    methods := [
      { name := "getFoo" },
      { name := "getBar"
        returnType := .mk "Map" [.plain "K", .plain "V"]
        annotations := [⟨"Tag", .ofList [("a", .single "y"), ("b", .list ["x"]),
          ("c", .other (.arr [.null]))]⟩] }] }]

end Sample

namespace SourceModel

variable {model : SourceModel}

/-- A model is read back from what is written of it exactly if it is well-formed. -/
theorem ofJson_toJson_eq_ok_iff : ofJson model.toJson = .ok model ↔ model.WellFormed :=
  ⟨fun read => Loaded.wellFormed (.inl ⟨_, read⟩), fun wellFormed => wellFormed.reads.readWith⟩

theorem loaded_iff_wellFormed : model.Loaded ↔ model.WellFormed :=
  ⟨Loaded.wellFormed, fun wellFormed => .inl ⟨_, ofJson_toJson_eq_ok_iff.2 wellFormed⟩⟩

/-- The models that can be read, from whatever value or text, are the well-formed ones,
and each of them is read back unchanged from what is written of it: from the value
itself, and from every text that spells the value.  Writing it again therefore gives
the same. -/
theorem loaded_reads_back (model : SourceModel) :
    (model.Loaded ↔ model.WellFormed) ∧
    (model.Loaded →
      ofJson model.toJson = .ok model ∧
      (∀ text, Json.Spells text model.toJson → ofText text = .ok model) ∧
      (ofJson model.toJson).map toJson = .ok model.toJson) := by
  refine ⟨loaded_iff_wellFormed, fun loaded => ?_⟩
  have read := ofJson_toJson_eq_ok_iff.2 loaded.wellFormed
  refine ⟨read, fun text spells => ?_, ?_⟩
  · exact loaded.wellFormed.reads.readText spells
  · rw [read]
    rfl

/-- The sample is read back from the value and from the text that are written of it. -/
theorem loaded_reads_back_sample :
    ofJson Sample.formsValue = .ok Sample.forms ∧
    ofJson Sample.forms.toJson = .ok Sample.forms ∧
    ofText Sample.forms.toJson.compact = .ok Sample.forms := by
  have read : ofJson Sample.formsValue = .ok Sample.forms := by decide +kernel
  have spells : Json.Spells Sample.forms.toJson.compact Sample.forms.toJson :=
    Json.spells_compact (by decide +kernel) (by decide +kernel)
  obtain ⟨again, fromText, -⟩ := (loaded_reads_back Sample.forms).2 (.inl ⟨_, read⟩)
  exact ⟨read, again, fromText _ spells⟩

end SourceModel

end EventFields

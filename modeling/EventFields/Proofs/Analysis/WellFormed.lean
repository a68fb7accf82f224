import EventFields.Proofs.Analysis.SideBySide
import EventFields.Proofs.Catalog.RoundTrip
import EventFields.Proofs.Inference.WellFormed
import EventFields.Proofs.Registry.Catalog

/-!
# What becomes of a loaded model

All types of a model that has been read are well-formed, and inference makes no
others.  So the types that an analysis finds and warns of can be printed and read
again, and its catalog can be written and read again, in whatever order its tasks
take effect and whether or not one of them fails.
-/

namespace EventFields

/-- The types that a warning names. -/
def Diagnostic.types : Diagnostic → List TypeRef
  | unknownMethod _ _ => []
  | conflictingTypes _ _ existing conflicting => [existing, conflicting]

/-- The types of mappings and warnings have names as they can be read, and are read
from their printed forms; those of a conflict are not printed alike. -/
structure Printable (mappings : List FieldMapping) (diagnostics : List Diagnostic) : Prop where
  fields : ∀ fields ∈ mappings, ∀ entry ∈ fields.entries,
    entry.2.WellFormed ∧ TypeRef.parse entry.2.text = .ok entry.2
  named : ∀ diagnostic ∈ diagnostics, ∀ type ∈ diagnostic.types,
    type.WellFormed ∧ TypeRef.parse type.text = .ok type
  conflicts : ∀ interface field existing conflicting,
    Diagnostic.conflictingTypes interface field existing conflicting ∈ diagnostics →
    existing.text ≠ conflicting.text

theorem printable_of_wellFormed {mappings : List FieldMapping} {diagnostics : List Diagnostic}
    (mappingsFormed : ∀ fields ∈ mappings, fields.WellFormed)
    (diagnosticsFormed : ∀ diagnostic ∈ diagnostics, diagnostic.WellFormed) :
    Printable mappings diagnostics where
  fields fields member entry among := by
    have wellFormed := mappingsFormed fields member entry among
    exact ⟨wellFormed, TypeRef.parse_text wellFormed⟩
  named diagnostic member type among := by
    have wellFormed : type.WellFormed := by
      have both := diagnosticsFormed diagnostic member
      cases diagnostic with
      | unknownMethod _ _ => cases among
      | conflictingTypes _ _ _ _ =>
          obtain ⟨existingFormed, conflictingFormed, -⟩ := both
          simp only [Diagnostic.types, List.mem_cons, List.not_mem_nil, or_false] at among
          rcases among with rfl | rfl
          · exact existingFormed
          · exact conflictingFormed
    exact ⟨wellFormed, TypeRef.parse_text wellFormed⟩
  conflicts _ _ _ _ member := (diagnosticsFormed _ member).2.2

namespace Analyzer

variable {analyzer : Analyzer}

theorem wellFormed_infer (sound : analyzer.resolver.Sound) {interface : Interface}
    (wellFormed : interface.WellFormed) : (analyzer.engine.infer interface).WellFormed :=
  InferenceEngine.wellFormed_infer (show analyzer.engine.resolver.Sound from sound) wellFormed

theorem infer_printable (sound : analyzer.resolver.Sound) {interface : Interface}
    (wellFormed : interface.WellFormed) :
    Printable (analyzer.engine.infer interface).result.toOption.toList
      (analyzer.engine.infer interface).diagnostics := by
  have run := wellFormed_infer sound wellFormed
  apply printable_of_wellFormed _ run.diagnostics
  intro fields among
  cases result : (analyzer.engine.infer interface).result with
  | error _ => simp [result, Except.toOption] at among
  | ok inferred =>
      simp only [result, Except.toOption, Option.toList_some, List.mem_singleton] at among
      rw [among]
      exact run.result inferred result

/-- The catalog that is returned is that of the registry. -/
theorem eq_of_catalog_eq_ok {model : SourceModel} {catalog : Catalog}
    (succeeds : analyzer.catalog model = .ok catalog) :
    (analyzer.run model).registry.catalog = catalog := by
  simp only [Analyzer.catalog] at succeeds
  cases result : (analyzer.run model).result with
  | error _ => simp [result, Except.map] at succeeds
  | ok _ => simpa [result, Except.map] using succeeds

end Analyzer

/-! ## Executions -/

namespace Execution

variable {analyzer : Analyzer} {interfaces : List Interface}
  (sound : analyzer.resolver.Sound) (wellFormed : ∀ interface ∈ interfaces, interface.WellFormed)

include sound wellFormed

theorem wellFormed_catalog (execution : Execution analyzer interfaces) :
    (execution.run .empty []).registry.catalog.WellFormed := by
  intro event member
  rcases execution.get?_run_cases (Registry.mem_catalog_iff.1 member) with
    before | ⟨interface, among, -, -, infers⟩
  · cases before
  · have run := Analyzer.wellFormed_infer sound (wellFormed interface among)
    exact run.result event.fields infers

theorem wellFormed_diagnostics (execution : Execution analyzer interfaces) :
    ∀ diagnostic ∈ (execution.run .empty []).diagnostics, diagnostic.WellFormed := by
  intro diagnostic raised
  rw [run_diagnostics, List.nil_append, execution.warnings_perm.mem_iff, List.mem_flatMap] at raised
  obtain ⟨interface, performed, warned⟩ := raised
  obtain ⟨among, -⟩ := execution.included_of_mem_performed performed
  have run := Analyzer.wellFormed_infer sound (wellFormed interface among)
  exact run.diagnostics diagnostic warned

theorem run_printable (execution : Execution analyzer interfaces) :
    Printable ((execution.run .empty []).registry.catalog.events.map (·.fields))
      (execution.run .empty []).diagnostics := by
  apply printable_of_wellFormed
  · rw [List.forall_mem_map]
    exact execution.wellFormed_catalog sound wellFormed
  · exact execution.wellFormed_diagnostics sound wellFormed

end Execution

/-! ## Loaded models -/

/-! A getter unwraps a type, a setter is in conflict with it, and a list has a type with
surplus blanks. -/

namespace Sample

def typedValue : Json :=
  .arr [.arr [.obj [("qualified_name", .str "org.example.Typed"), ("methods", .arr [
    .obj [("name", .str "getFoo"), ("return_type", .str "Optional< List<K > >")],
    .arr [.str "setFoo", .arr [.arr [.str "foo", .str "Int"]]],
    .obj [("name", .str "bar"), ("annotations", .arr [
      .arr [.str "Fields", .obj [("value", .str "bar: Map<K,V >")]]])]])]]]

/-- The model that the value stands for. -/
def typed : SourceModel where
  interfaces := [{
    qualifiedName := ⟨"org.example.Typed", by decide⟩
    methods := [
      { name := "getFoo", returnType := .mk "Optional" [.mk "List" [.plain "K"]] },
      { name := "setFoo", parameters := [⟨"foo", .plain "Int"⟩] },
      { name := "bar", annotations := [
        .withElement (.bare "Fields") FieldList.valueElement (.single "bar: Map<K,V >")] }] }]

/-- An analysis with lists whose types are parsed. -/
def parsing : Analyzer where
  settings := { overrideType := some "Fields" }

def typedCatalog : Catalog :=
  ⟨[⟨⟨"org.example.Typed", by decide⟩,
    .ofList [(foo, .mk "List" [.plain "K"]), (bar, .mk "Map" [.plain "K", .plain "V"])]⟩]⟩

end Sample

/-- Whatever is found in a loaded model can be printed, written and read again.

* The types of every mapping that is inferred, and of every warning, have names as
  they can be read, and are read from their printed forms; the two types of a
  conflict are printed differently.
* The same holds of what the analysis in order and every execution of its tasks leave
  behind, also if they fail.
* The catalog is read from its value and from its texts as it is: the same events in
  the same order, each with the same fields in the same order. -/
theorem SourceModel.Loaded.analysis_reads_back {model : SourceModel} (loaded : model.Loaded)
    (settings : AnalysisSettings) (policy : InclusionPolicy) :
    let analyzer : Analyzer := { settings, policy, resolver := .parsing }
    (∀ interface ∈ model.interfaces, Printable
      (analyzer.engine.infer interface).result.toOption.toList
      (analyzer.engine.infer interface).diagnostics) ∧
    Printable ((analyzer.run model).registry.catalog.events.map (·.fields))
      (analyzer.run model).diagnostics ∧
    (∀ catalog, analyzer.catalog model = .ok catalog → catalog.ReadBack) ∧
    ∀ execution : Execution analyzer model.interfaces,
      Printable ((execution.run .empty []).registry.catalog.events.map (·.fields))
        (execution.run .empty []).diagnostics ∧
      (execution.run .empty []).registry.catalog.ReadBack := by
  intro analyzer
  have sound : analyzer.resolver.Sound := Resolver.sound_parsing
  have wellFormed := loaded.wellFormed
  have inOrder : analyzer.run model =
      (Execution.inOrder analyzer model.interfaces).run .empty [] :=
    (analyzer.run_inOrder model.interfaces .empty []).symm
  refine ⟨fun interface member => ?inferred, ?sequential, fun catalog succeeds => ?catalog,
    fun execution => ?tasks⟩
  case inferred => exact Analyzer.infer_printable sound (wellFormed interface member)
  case sequential =>
    rw [inOrder]
    exact Execution.run_printable sound wellFormed _
  case catalog =>
    rw [← Analyzer.eq_of_catalog_eq_ok succeeds, inOrder]
    exact (Execution.wellFormed_catalog sound wellFormed _).readBack
  case tasks =>
    exact ⟨execution.run_printable sound wellFormed,
      (execution.wellFormed_catalog sound wellFormed).readBack⟩

/-- The warning and the catalog of the sample, whose types went through `Optional`, a
parameter and a list. -/
theorem SourceModel.Loaded.analysis_reads_back_sample :
    ofJson Sample.typedValue = .ok Sample.typed ∧
    Sample.parsing.catalog Sample.typed = .ok Sample.typedCatalog ∧
    Sample.typedCatalog.ReadBack ∧
    (TypeRef.mk "List" [.plain "K"]).text ≠ (TypeRef.plain "Int").text := by
  have read : ofJson Sample.typedValue = .ok Sample.typed := by decide +kernel
  have succeeds : Sample.parsing.catalog Sample.typed = .ok Sample.typedCatalog := by
    decide +kernel
  have warned : Diagnostic.conflictingTypes ⟨"org.example.Typed", by decide⟩ Sample.foo
      (.mk "List" [.plain "K"]) (.plain "Int") ∈ (Sample.parsing.run Sample.typed).diagnostics := by
    decide +kernel
  obtain ⟨-, printable, readBack, -⟩ := Loaded.analysis_reads_back (.inl ⟨_, read⟩)
    Sample.parsing.settings Sample.parsing.policy
  exact ⟨read, succeeds, readBack _ succeeds, printable.conflicts _ _ _ _ warned⟩

end EventFields

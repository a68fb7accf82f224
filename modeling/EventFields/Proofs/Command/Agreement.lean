import EventFields.Command
import EventFields.Proofs.Analysis.InOrder
import EventFields.Proofs.Inference.Trace
import EventFields.Proofs.Registry.Catalog

/-!
# Explanations and catalogs

Both commands infer with the same engine, but not always from the same
interface.  An explanation is about the first interface of the model that has the
name, whether it is included or not; in the catalog, the last included one is
found.  The two agree exactly if these infer the same, as they do when the model
has only one interface of the name.
-/

namespace EventFields

/-! ## Mappings rebuilt from verdicts -/

/-- The mapping that verdicts tell of: an explicit one, or else the one that they
build. -/
def Verdict.rebuild : List Verdict → FieldMapping
  | .explicit _ fields :: _ => fields
  | verdicts => replay verdicts

namespace InferenceEngine

variable {engine : InferenceEngine}

theorem Steps.rebuild_eq {methods : List Method} {verdicts : List Verdict}
    {final : FieldMapping} (steps : engine.Steps .empty methods verdicts final) :
    Verdict.rebuild verdicts = final := by
  have replayed : Verdict.replay verdicts = final := steps.foldl_replayOn
  cases steps with
  | nil => rfl
  | cons explains _ => cases explains <;> exact replayed

/-- The verdicts of a run tell of its mapping. -/
theorem rebuild_verdicts {interface : Interface} {fields : FieldMapping}
    (succeeds : (engine.infer interface).result = .ok fields) :
    Verdict.rebuild (engine.infer interface).verdicts = fields := by
  cases overridden : engine.overrideOn? interface.annotations with
  | some tag =>
      rw [infer_result_of_override overridden] at succeeds
      rw [InferenceRun.verdicts, infer_events_of_override overridden succeeds,
        Verdict.filterMap_verdict?_flatMap]
      rfl
  | none =>
      rw [infer_eq_inferMethods overridden] at succeeds ⊢
      obtain ⟨verdicts, steps, events⟩ := steps_of_result succeeds
      rw [InferenceRun.verdicts, events, Verdict.filterMap_verdict?_flatMap]
      exact steps.rebuild_eq

/-- An empty name turns overrides off, like no name at all. -/
theorem configured_of_withOverrideType (settings : AnalysisSettings) (name : String)
    (resolver : Resolver) :
    configured (settings.withOverrideType name).overrideType resolver =
      configured (some name) resolver := by
  by_cases unnamed : name = ""
  · rw [unnamed]
    rfl
  · simp [configured, AnalysisSettings.withOverrideType, unnamed]

end InferenceEngine

/-! ## The interface that counts -/

namespace SourceModel

/-- The first interface of a name. -/
def first? (model : SourceModel) (name : String) : Option Interface :=
  model.interfaces.find? (·.qualifiedName.text = name)

/-- The last included interface of a name. -/
def lastIncluded? (model : SourceModel) (policy : InclusionPolicy) (name : String) :
    Option Interface :=
  (model.interfaces.filter policy).reverse.find? (·.qualifiedName.text = name)

theorem chosen_of_lastIncluded? {model : SourceModel} {policy : InclusionPolicy}
    {name : String} {last : Interface}
    (isLast : model.lastIncluded? policy name = some last) :
    last ∈ model.interfaces.filter policy ∧ last.qualifiedName.text = name := by
  have named : last.qualifiedName.text = name := by simpa using List.find?_some isLast
  exact ⟨List.mem_reverse.1 (List.mem_of_find?_eq_some isLast), named⟩

theorem mem_of_lastIncluded? {model : SourceModel} {policy : InclusionPolicy} {name : String}
    {last : Interface} (isLast : model.lastIncluded? policy name = some last) :
    last ∈ model.interfaces ∧ last.qualifiedName.text = name := by
  obtain ⟨chosen, named⟩ := chosen_of_lastIncluded? isLast
  exact ⟨List.mem_of_mem_filter chosen, named⟩

/-- A name that an included interface has is that of a last one. -/
theorem exists_lastIncluded? {model : SourceModel} {policy : InclusionPolicy}
    {interface : Interface} (chosen : interface ∈ model.interfaces.filter policy) :
    ∃ last, model.lastIncluded? policy interface.qualifiedName.text = some last := by
  rw [← Option.isSome_iff_exists, lastIncluded?, List.find?_isSome]
  exact ⟨interface, List.mem_reverse.2 chosen, by simp⟩

theorem exists_first? {model : SourceModel} {interface : Interface}
    (member : interface ∈ model.interfaces) :
    ∃ first, model.first? interface.qualifiedName.text = some first := by
  rw [← Option.isSome_iff_exists, first?, List.find?_isSome]
  exact ⟨interface, member, by simp⟩

end SourceModel

namespace Analyzer

variable {analyzer : Analyzer}

theorem lastRecorded?_filterMap_recorded? {interfaces : List Interface}
    (passes : ∀ interface ∈ interfaces, analyzer.failure? interface = none) (name : String) :
    Registry.lastRecorded? (interfaces.filterMap analyzer.recorded?) name =
      (interfaces.reverse.find? (·.qualifiedName.text = name)).bind fun interface =>
        (analyzer.engine.infer interface).result.toOption := by
  induction interfaces with
  | nil => rfl
  | cons interface rest ih =>
      obtain ⟨fields, infers⟩ := failure?_eq_none_iff.1 (passes interface List.mem_cons_self)
      have recorded : analyzer.recorded? interface = some (interface.qualifiedName, fields) :=
        recorded?_eq_some_iff.2 ⟨infers, rfl⟩
      have later := ih fun other member => passes other (List.mem_cons_of_mem interface member)
      rw [List.filterMap_cons_some recorded, ← List.singleton_append,
        Registry.lastRecorded?_append, later, List.reverse_cons, List.find?_append]
      cases found : rest.reverse.find? (·.qualifiedName.text = name) with
      | some last =>
          have member := List.mem_reverse.1 (List.mem_of_find?_eq_some found)
          obtain ⟨_, lastInfers⟩ := failure?_eq_none_iff.1
            (passes last (List.mem_cons_of_mem interface member))
          simp [lastInfers, Except.toOption]
      | none =>
          by_cases named : interface.qualifiedName.text = name <;>
            simp [Registry.lastRecorded?, named, infers, Except.toOption]

/-- After a completed analysis, the last included interface of a name counts. -/
theorem get?_run {model : SourceModel} {stats : AnalysisStats}
    (succeeds : (analyzer.run model).result = .ok stats) (name : String) :
    (analyzer.run model).registry.get? name =
      (model.lastIncluded? analyzer.policy name).bind fun interface =>
        (analyzer.engine.infer interface).result.toOption := by
  have unfailing := unfailing_of_result succeeds
  rw [run, analyzeInto_of_unfailing unfailing, Registry.get?_recordAll, Registry.get?_empty,
    Option.or_none, lastRecorded?_filterMap_recorded? (unfailing_iff.1 unfailing),
    SourceModel.lastIncluded?]

theorem exists_lastIncluded {model : SourceModel} {stats : AnalysisStats} {event : Event}
    (succeeds : (analyzer.run model).result = .ok stats)
    (listed : event ∈ (analyzer.run model).registry.catalog.events) :
    ∃ last, model.lastIncluded? analyzer.policy event.name.text = some last ∧
      (analyzer.engine.infer last).result = .ok event.fields := by
  have held := Registry.mem_catalog_iff.1 listed
  rw [get?_run succeeds, Option.bind_eq_some_iff] at held
  obtain ⟨last, found, infers⟩ := held
  refine ⟨last, found, ?_⟩
  cases result : (analyzer.engine.infer last).result with
  | ok fields =>
      rw [result] at infers
      rw [Option.some.inj infers]
  | error cause =>
      rw [result] at infers
      cases infers

end Analyzer

/-! ## The commands -/

variable {files : Files} {settings : Settings} {analysis : AnalyzeRequest}
  {explanation : ExplainRequest}

theorem AnalyzeRequest.analyze_eq_ok_iff {run : AnalysisRun} :
    analysis.analyze files settings = .ok run ↔
      ∃ selection model,
        Selection.parse (analysis.effective settings).toInclude
          (analysis.effective settings).toExclude = .ok selection ∧
        loadModel files analysis.model = .ok model ∧
        (analysis.analyzer settings selection).run model = run := by
  simp only [analyze, analyzeBy]
  cases Selection.parse (analysis.effective settings).toInclude
      (analysis.effective settings).toExclude with
  | error cause => simp
  | ok selection =>
      cases loadModel files analysis.model with
      | error error => simp
      | ok model => simp

/-- Commands with the same override name infer with the same engine. -/
theorem ExplainRequest.engine_eq
    (sameOverride : explanation.overrideType? = analysis.overrideType?) (selection : Selection) :
    explanation.engine settings = (analysis.analyzer settings selection).engine := by
  rw [engine, sameOverride]
  exact (InferenceEngine.configured_of_withOverrideType {} _ .parsing).symm

theorem ExplainRequest.subject_eq_ok_iff {model : SourceModel} {interface : Interface}
    (loaded : loadModel files explanation.model = .ok model) :
    explanation.subject files = .ok interface ↔
      model.first? explanation.interface = some interface := by
  simp only [subject, loaded, SourceModel.first?]
  cases model.interfaces.find? (·.qualifiedName.text = explanation.interface) <;> simp

/-- An explanation succeeds with a mapping: the one that is inferred for its subject,
and that the verdicts in its report tell of. -/
structure ExplainRequest.Gives (request : ExplainRequest) (files : Files) (settings : Settings)
    (interface : Interface) (fields : FieldMapping) : Prop where
  subject : request.subject files = .ok interface
  infers : ((request.engine settings).infer interface).result = .ok fields
  rebuilds : Verdict.rebuild ((request.engine settings).infer interface).verdicts = fields
  succeeds : (request.perform files settings).error? = none
  reports : (request.perform files settings).output =
    ((request.engine settings).infer interface).report interface

theorem ExplainRequest.gives_iff {interface : Interface} {fields : FieldMapping}
    (subject : explanation.subject files = .ok interface) :
    explanation.Gives files settings interface fields ↔
      ((explanation.engine settings).infer interface).result = .ok fields := by
  refine ⟨Gives.infers, fun infers => ⟨subject, infers, ?_, ?_, ?_⟩⟩
  · exact InferenceEngine.rebuild_verdicts infers
  · simp only [perform, subject, infers]
  · simp only [perform, subject, infers]

/-! ## A sample

Model files with records written as arrays.  In one of them two interfaces have
one name, in the other one an interface has a list. -/

namespace Sample

/-- Files of which only one is there. -/
def file (text : String) : Files := fun path =>
  if path = "model.json" then some text else none

def repeatedText : String :=
  "[[[\"A\",null,[],[[\"getFoo\",[],\"Int\"]]],[\"A\",null,[],[[\"getBar\",[],\"Text\"]]]]]"

def repeated : SourceModel where
  interfaces := [{ qualifiedName := ⟨"A", by decide⟩, methods := [getter] },
    { qualifiedName := ⟨"A", by decide⟩,
      methods := [{ name := "getBar", returnType := .plain "Text" }] }]

def distinctText : String :=
  "[[[\"A\",null,[[\"Fields\",\x7b\"value\":[\"id:Long\"]\x7d]],[[\"getFoo\"]]],[\"B\"]]]"

def explained : Interface where
  qualifiedName := ⟨"A", by decide⟩
  annotations := [listing ["id:Long"]]
  methods := [{ name := "getFoo" }]

def distinct : SourceModel where
  interfaces := [explained, { qualifiedName := ⟨"B", by decide⟩ }]

def analysing : AnalyzeRequest where
  model := "model.json"

def explaining : ExplainRequest where
  model := "model.json"
  interface := "A"

theorem loadModel_repeated : loadModel (file repeatedText) "model.json" = .ok repeated := by
  decide +kernel

theorem loadModel_distinct : loadModel (file distinctText) "model.json" = .ok distinct := by
  decide +kernel

end Sample

/-! ## Agreement -/

/-- When an explanation agrees with the catalog of a completed analysis.

* The explanation is about the first interface of the name, included or not.
* The catalog has the mapping of the last included one.
* The explanation succeeds with the mapping of the catalog exactly if these two
  infer the same.
* In particular it does if the model has no other interface of the name. -/
theorem ExplainRequest.agrees_iff (sameModel : explanation.model = analysis.model)
    (sameOverride : explanation.overrideType? = analysis.overrideType?)
    {run : AnalysisRun} {stats : AnalysisStats}
    (analysed : analysis.analyze files settings = .ok run) (succeeds : run.result = .ok stats)
    {event : Event} (listed : event ∈ run.registry.catalog.events)
    (named : explanation.interface = event.name.text) :
    ∃ selection model first last,
      Selection.parse (analysis.effective settings).toInclude
        (analysis.effective settings).toExclude = .ok selection ∧
      loadModel files analysis.model = .ok model ∧
      model.first? event.name.text = some first ∧
      model.lastIncluded? selection.includes event.name.text = some last ∧
      explanation.subject files = .ok first ∧
      ((explanation.engine settings).infer last).result = .ok event.fields ∧
      ((∃ interface, explanation.Gives files settings interface event.fields) ↔
        ((explanation.engine settings).infer first).result =
          ((explanation.engine settings).infer last).result) ∧
      ((∀ other ∈ model.interfaces, other.qualifiedName = event.name → other = first) →
        explanation.Gives files settings first event.fields) := by
  obtain ⟨selection, model, parsed, loaded, rfl⟩ := AnalyzeRequest.analyze_eq_ok_iff.1 analysed
  obtain ⟨last, isLast, lastInfers⟩ := Analyzer.exists_lastIncluded succeeds listed
  rw [← engine_eq sameOverride] at lastInfers
  obtain ⟨lastMember, lastNamed⟩ := SourceModel.mem_of_lastIncluded? isLast
  obtain ⟨first, isFirst⟩ := SourceModel.exists_first? lastMember
  rw [lastNamed] at isFirst
  have subject : explanation.subject files = .ok first := by
    rw [subject_eq_ok_iff (sameModel ▸ loaded), named]
    exact isFirst
  refine ⟨selection, model, first, last, parsed, loaded, isFirst, isLast, subject, lastInfers,
    ?_, ?_⟩
  · rw [lastInfers]
    constructor
    · rintro ⟨interface, gives⟩
      cases gives.subject.symm.trans subject
      exact gives.infers
    · intro firstInfers
      exact ⟨first, (gives_iff subject).2 firstInfers⟩
  · intro unique
    rw [gives_iff subject, ← unique last lastMember (Name.ext lastNamed)]
    exact lastInfers

/-- In the sample with a list, both commands read the mapping from there. -/
theorem ExplainRequest.agrees_iff_sample :
    Sample.explaining.Gives (Sample.file Sample.distinctText) { overrideType := "Fields" }
      Sample.explained (.ofList [(Sample.id, .plain "Long")]) := by
  have sameModel : Sample.explaining.model = Sample.analysing.model := rfl
  have analysed : Sample.analysing.analyze (Sample.file Sample.distinctText)
      { overrideType := "Fields" } = .ok _ :=
    AnalyzeRequest.analyze_eq_ok_iff.2 ⟨⟨[], []⟩, _, rfl, Sample.loadModel_distinct, rfl⟩
  have succeeds : ((Sample.analysing.analyzer { overrideType := "Fields" } ⟨[], []⟩).run
      Sample.distinct).result = .ok ⟨2, 2, 0, 0⟩ := by decide +kernel
  have listed : (⟨⟨"A", by decide⟩, .ofList [(Sample.id, .plain "Long")]⟩ : Event) ∈
      ((Sample.analysing.analyzer { overrideType := "Fields" } ⟨[], []⟩).run
        Sample.distinct).registry.catalog.events := by decide +kernel
  obtain ⟨selection, model, first, last, -, loaded, isFirst, -, -, -, -, agrees⟩ :=
    agrees_iff sameModel rfl analysed succeeds listed rfl
  obtain rfl := Except.ok.inj (Sample.loadModel_distinct.symm.trans loaded)
  obtain rfl : Sample.explained = first := Option.some.inj isFirst
  exact agrees (by decide +kernel)

/-- Of two interfaces of one name, the first is explained, and the last is in the catalog. -/
theorem ExplainRequest.disagrees_on_repeated_name :
    ∃ run stats event,
      Sample.analysing.analyze (Sample.file Sample.repeatedText) {} = .ok run ∧
      run.result = .ok stats ∧ event ∈ run.registry.catalog.events ∧
      Sample.explaining.interface = event.name.text ∧
      ¬ ∃ interface, Sample.explaining.Gives (Sample.file Sample.repeatedText) {}
        interface event.fields := by
  refine ⟨(Sample.analysing.analyzer {} ⟨[], []⟩).run Sample.repeated, ⟨2, 2, 0, 0⟩,
    ⟨⟨"A", by decide⟩, .ofList [(Sample.bar, .plain "Text")]⟩, ?_, ?_, ?_, rfl, ?_⟩
  · exact AnalyzeRequest.analyze_eq_ok_iff.2
      ⟨⟨[], []⟩, _, rfl, Sample.loadModel_repeated, rfl⟩
  · decide +kernel
  · decide +kernel
  · rintro ⟨interface, gives⟩
    have isFirst := (subject_eq_ok_iff Sample.loadModel_repeated).1 gives.subject
    obtain rfl := Option.some.inj isFirst
    have infers := gives.infers
    revert infers
    decide +kernel

end EventFields

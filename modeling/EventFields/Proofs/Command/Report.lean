import EventFields.Proofs.Analysis.WellFormed
import EventFields.Proofs.Command.Agreement
import EventFields.Proofs.Report

/-!
# All of a report or nothing

An analysis that is asked for can come about in several ways if its tasks run side by
side.  In each of them the command prints nothing unless the analysis is complete, and
then all of its report.  Whether warnings are denied is not looked at before that, so it
only decides how the command ends.

The numbers in the report are taken from what the run has left behind.  That they are
the numbers of included names and of warnings raised holds for every order of the
tasks, because names and warnings are the same up to order.
-/

namespace EventFields

/-! ## What a complete analysis covers -/

/-- A run is complete: its catalog and its warnings are those of the included interfaces. -/
structure Analyzer.Covers (analyzer : Analyzer) (interfaces : List Interface)
    (run : AnalysisRun) : Prop where
  ascending : Catalog.Ascending run.registry.catalog.events
  mem_names_iff : ∀ name, name ∈ run.registry.catalog.events.map (·.name) ↔
    name ∈ (interfaces.filter analyzer.policy).map (·.qualifiedName)
  /-- Interfaces with one name count once. -/
  size_eq : run.registry.catalog.size =
    ((interfaces.filter analyzer.policy).map (·.qualifiedName)).dedup.length
  inferred : ∀ event ∈ run.registry.catalog.events,
    ∃ interface ∈ interfaces.filter analyzer.policy, interface.qualifiedName = event.name ∧
      (analyzer.engine.infer interface).result = .ok event.fields
  /-- The warnings of an interface count also if its event has been replaced. -/
  diagnostics_perm : run.diagnostics.Perm
    ((interfaces.filter analyzer.policy).flatMap analyzer.warnings)
  counted : ∃ stats, run.result = .ok stats ∧ stats.warnings = run.diagnostics.length
  logged : run.log.countP (·.level = .warn) = run.diagnostics.length

/-- Interfaces that do not fail record their names, in order. -/
theorem Analyzer.map_fst_filterMap_recorded? {analyzer : Analyzer} {interfaces : List Interface}
    (passes : ∀ interface ∈ interfaces, analyzer.failure? interface = none) :
    (interfaces.filterMap analyzer.recorded?).map Prod.fst =
      interfaces.map (·.qualifiedName) := by
  induction interfaces with
  | nil => rfl
  | cons interface rest ih =>
      obtain ⟨fields, infers⟩ := failure?_eq_none_iff.1 (passes interface List.mem_cons_self)
      have recorded : analyzer.recorded? interface = some (interface.qualifiedName, fields) :=
        recorded?_eq_some_iff.2 ⟨infers, rfl⟩
      have later := ih fun other member => passes other (List.mem_cons_of_mem interface member)
      rw [List.filterMap_cons_some recorded, List.map_cons, later, List.map_cons]

/-- The log of a completed run has one warning for each diagnostic. -/
theorem AnalysisRun.countP_log {run : AnalysisRun} {stats : AnalysisStats}
    (succeeds : run.result = .ok stats) :
    run.log.countP (·.level = .warn) = run.diagnostics.length := by
  have silent : [stats.logEvent].countP (·.level = .warn) = 0 := rfl
  rw [log, succeeds, List.countP_append, silent, Nat.add_zero, List.countP_map]
  exact List.countP_eq_length.2 fun _ _ => rfl

namespace Execution

variable {analyzer : Analyzer} {interfaces : List Interface}

/-- The names that an execution without a failure records. -/
theorem names_perm (execution : Execution analyzer interfaces)
    (unfailing : analyzer.Unfailing interfaces) :
    (execution.records.map Prod.fst).Perm
      ((interfaces.filter analyzer.policy).map (·.qualifiedName)) := by
  have performed := execution.performed_perm (execution.performed_passes unfailing)
  have records := execution.records_perm.trans (performed.filterMap analyzer.recorded?)
  rw [← Analyzer.map_fst_filterMap_recorded? (Analyzer.unfailing_iff.1 unfailing)]
  exact records.map Prod.fst

/-- What an execution leaves behind has come about by what it records. -/
theorem recorded_run (execution : Execution analyzer interfaces) :
    Registry.Recorded execution.records (execution.run .empty []).registry :=
  Registry.Recorded.empty.tasks execution (List.append_nil _).symm []

/-- An execution in which no included interface fails is complete. -/
theorem covers (execution : Execution analyzer interfaces)
    (unfailing : analyzer.Unfailing interfaces) :
    analyzer.Covers interfaces (execution.run .empty []) := by
  have names := execution.names_perm unfailing
  have performed := execution.performed_perm (execution.performed_passes unfailing)
  have result := execution.run_result_of_unreported
    ((reported?_eq_none_iff execution).2 unfailing) .empty []
  have diagnostics : (execution.run .empty []).diagnostics = execution.warnings := by
    rw [run_diagnostics, List.nil_append]
  constructor
  case ascending => exact Registry.ascending_catalog _
  case mem_names_iff =>
    intro name
    rw [execution.recorded_run.mem_names_iff_mem_history, names.mem_iff]
  case size_eq =>
    have size : (execution.run .empty []).registry.catalog.size =
        (execution.run .empty []).registry.size := List.length_map _
    rw [size, execution.recorded_run.size_eq, names.dedup.length_eq]
  case inferred =>
    intro event listed
    rcases execution.get?_run_cases (Registry.mem_catalog_iff.1 listed) with held | found
    · cases held
    · obtain ⟨interface, member, included, named, infers⟩ := found
      exact ⟨interface, List.mem_filter.2 ⟨member, included⟩, Name.ext named, infers⟩
  case diagnostics_perm =>
    rw [diagnostics]
    exact execution.warnings_perm.trans (performed.flatMap_right _)
  case counted => exact ⟨_, result, congrArg List.length diagnostics.symm⟩
  case logged => exact AnalysisRun.countP_log result

end Execution

/-! ## The command -/

/-- A way in which every analysis is carried out. -/
abbrev Schedule :=
  (analyzer : Analyzer) → (model : SourceModel) → Execution analyzer model.interfaces

namespace Schedule

/-- What analyses leave behind that are carried out by a schedule. -/
def carryOut (schedule : Schedule) (analyzer : Analyzer) (model : SourceModel) : AnalysisRun :=
  (schedule analyzer model).run .empty []

/-- The schedule without tasks that run side by side. -/
def inOrder : Schedule := fun analyzer model => .inOrder analyzer model.interfaces

theorem carryOut_inOrder : carryOut inOrder = Analyzer.run := by
  funext analyzer model
  exact analyzer.run_inOrder model.interfaces .empty []

end Schedule

theorem loaded_of_loadModel {files : Files} {path : String} {model : SourceModel}
    (loaded : loadModel files path = .ok model) : model.Loaded := by
  unfold loadModel at loaded
  split at loaded
  · cases loaded
  · next text _ =>
    split at loaded
    · next read =>
      cases loaded
      exact .inr ⟨text, read⟩
    · cases loaded

namespace AnalyzeRequest

variable {carryOut : Analyzer → SourceModel → AnalysisRun} {files : Files} {settings : Settings}

theorem performBy_of_invalid (request : AnalyzeRequest) {cause : SelectionError}
    (invalid : Selection.parse (request.effective settings).toInclude
      (request.effective settings).toExclude = .error cause) :
    request.performBy carryOut files settings = .failed (.badSelection cause) := by
  simp only [performBy, analyzeBy, invalid]

theorem performBy_of_unread (request : AnalyzeRequest) {selection : Selection}
    {error : CommandError}
    (parsed : Selection.parse (request.effective settings).toInclude
      (request.effective settings).toExclude = .ok selection)
    (unread : loadModel files request.model = .error error) :
    request.performBy carryOut files settings = .failed error := by
  simp only [performBy, analyzeBy, parsed, unread]

theorem performBy_of_loaded (request : AnalyzeRequest) {selection : Selection} {model : SourceModel}
    (parsed : Selection.parse (request.effective settings).toInclude
      (request.effective settings).toExclude = .ok selection)
    (loaded : loadModel files request.model = .ok model) :
    request.performBy carryOut files settings =
      request.conclude (carryOut (request.analyzer settings selection) model) := by
  simp only [performBy, analyzeBy, parsed, loaded]

theorem conclude_denyWarnings (request : AnalyzeRequest) (run : AnalysisRun) (deny : Bool) :
    ({ request with denyWarnings := deny }.conclude run).output = (request.conclude run).output ∧
      ({ request with denyWarnings := deny }.conclude run).log = (request.conclude run).log := by
  simp only [conclude]
  cases run.result with
  | error cause => exact ⟨rfl, rfl⟩
  | ok stats => exact ⟨rfl, rfl⟩

/-- Whether warnings are denied shows only in how the command ends. -/
theorem performBy_denyWarnings (carryOut : Analyzer → SourceModel → AnalysisRun)
    (request : AnalyzeRequest) (files : Files) (settings : Settings) (deny : Bool) :
    ({ request with denyWarnings := deny }.performBy carryOut files settings).output =
        (request.performBy carryOut files settings).output ∧
      ({ request with denyWarnings := deny }.performBy carryOut files settings).log =
        (request.performBy carryOut files settings).log := by
  have sameAnalysis : { request with denyWarnings := deny }.analyzeBy carryOut files settings =
      request.analyzeBy carryOut files settings := rfl
  rw [performBy, performBy, sameAnalysis]
  cases request.analyzeBy carryOut files settings with
  | error error => exact ⟨rfl, rfl⟩
  | ok run => exact request.conclude_denyWarnings run deny

/-- A command prints nothing if the analysis has stopped. -/
theorem conclude_of_failing (request : AnalyzeRequest) {analyzer : Analyzer}
    {interfaces : List Interface} (execution : Execution analyzer interfaces)
    (fails : ¬ analyzer.Unfailing interfaces) :
    (request.conclude (execution.run .empty [])).output = "" ∧
      ∃ interface ∈ interfaces, analyzer.policy interface = true ∧
        ∃ cause, (analyzer.engine.infer interface).result = .error cause ∧
          (request.conclude (execution.run .empty [])).error? =
            some (.stoppedAnalysis (.explicitFields interface.qualifiedName cause)) := by
  cases result : (execution.run .empty []).result with
  | ok stats => exact absurd ((execution.exists_ok_iff .empty []).1 ⟨stats, result⟩) fails
  | error error =>
      obtain ⟨interface, member, included, cause, causes, rfl⟩ :=
        execution.exists_cause_of_error result
      rw [conclude, result]
      exact ⟨rfl, interface, member, included, cause, causes, rfl⟩

section Covers

variable {analyzer : Analyzer} {interfaces : List Interface} {run : AnalysisRun}
  (covers : analyzer.Covers interfaces run)

include covers

theorem conclude_of_covers (request : AnalyzeRequest) :
    request.conclude run = request.report run := by
  obtain ⟨stats, succeeds, -⟩ := covers.counted
  rw [conclude, succeeds]

/-- A report as JSON on a complete analysis is read as its catalog. -/
theorem readText_conclude (request : AnalyzeRequest) (asJson : request.json = true)
    (wellFormed : run.registry.catalog.WellFormed) :
    (request.conclude run).output = run.registry.catalog.toJson.pretty ++ "\n" ∧
      Json.readText Catalog.reader (request.conclude run).output = .ok run.registry.catalog := by
  have printed : (request.conclude run).output = run.registry.catalog.jsonReport := by
    rw [request.conclude_of_covers covers, report, asJson]
    rfl
  rw [printed]
  exact ⟨run.registry.catalog.jsonReport_eq, wellFormed.readText_jsonReport⟩

/-- A report as text on a complete analysis describes its events, with the numbers of names
and of warnings. -/
theorem describes_conclude (request : AnalyzeRequest) (asText : request.json = false) :
    Describes (request.conclude run).output run.registry.catalog.events
      ((interfaces.filter analyzer.policy).map (·.qualifiedName)).dedup.length
      ((interfaces.filter analyzer.policy).flatMap analyzer.warnings).length := by
  have printed : (request.conclude run).output =
      run.registry.catalog.textReport run.diagnostics.length := by
    rw [request.conclude_of_covers covers, report, asText]
    rfl
  rw [printed, ← covers.size_eq, ← covers.diagnostics_perm.length_eq]
  exact Catalog.describes_iff.2 rfl

/-- After a complete analysis, a command fails exactly if there are warnings that are
denied. -/
theorem error?_conclude (request : AnalyzeRequest) :
    (request.conclude run).error? =
      if request.denyWarnings = true ∧ run.diagnostics ≠ [] then
        some (.deniedWarnings run.diagnostics.length)
      else none := by
  rw [request.conclude_of_covers covers]
  simp [report]

end Covers

end AnalyzeRequest

/-! ## A sample

Two interfaces with one name, one of them with a warning, a third one, and a schedule that
takes tasks from the last one to the first. -/

namespace Sample

def warnedText : String :=
  "[[[\"C\",null,[],[[\"move\",[[\"x\",\"Int\"],[\"y\",\"Int\"]]]]]," ++
    "[\"C\",null,[],[[\"getFoo\",[],\"Int\"]]],[\"D\",null,[],[[\"getFoo\",[],\"Int\"]]]]]"

def warned : SourceModel where
  interfaces := [{ qualifiedName := ⟨"C", by decide⟩, methods := [mover] },
    { qualifiedName := ⟨"C", by decide⟩, methods := [getter] },
    { qualifiedName := ⟨"D", by decide⟩, methods := [getter] }]

theorem loadModel_warned : loadModel (file warnedText) "model.json" = .ok warned := by
  decide +kernel

/-- What is left behind if the last task comes first. -/
def warnedCatalog : Catalog :=
  ⟨[⟨⟨"C", by decide⟩, .empty⟩, ⟨⟨"D", by decide⟩, .ofList [(foo, .plain "Int")]⟩]⟩

/-- The report on it as JSON. -/
def warnedJson : String :=
  "[\n" ++
    "  \x7b\n    \"name\": \"C\",\n    \"fields\": \x7b\x7d\n  \x7d,\n" ++
    "  \x7b\n    \"name\": \"D\",\n    \"fields\": \x7b\n      \"foo\": \"Int\"\n    \x7d\n  \x7d\n" ++
    "]\n"

def denying : AnalyzeRequest := { analysing with denyWarnings := true, parallel := true }

/-- The schedule that carries out all tasks, the last one first. -/
def backwards : Schedule := fun analyzer model =>
  .oneByOne analyzer model.interfaces (model.interfaces.filter analyzer.policy).reverse []
    ((List.append_nil _).symm ▸ List.reverse_perm _) (absurd rfl)

end Sample

/-! ## All or nothing -/

/-- By whatever schedule a model is analysed, the command prints nothing or all of its
report.

* A pattern that is not valid is reported first, one to include before one to exclude,
  and then a model that cannot be read.  Nothing is done in these cases.
* Nothing is printed if an included interface fails.
* Otherwise the analysis is complete, and so is the report on it.  JSON is read as the
  catalog.  A text describes its events, each with all of its fields, and ends with the
  number of names of included interfaces and the number of warnings about them.
* Then the command fails exactly if there are warnings and they are denied.
* Whether warnings are denied changes neither what is printed nor what is logged. -/
theorem AnalyzeRequest.prints_all_or_nothing (schedule : Schedule) (request : AnalyzeRequest)
    (files : Files) (settings : Settings) :
    request.performBy Schedule.inOrder.carryOut files settings = request.perform files settings ∧
    (∀ fault, Selection.parsePatterns (request.effective settings).toInclude = .error fault →
      request.performBy schedule.carryOut files settings =
        .failed (.badSelection (.invalidInclude fault))) ∧
    (∀ included fault,
      Selection.parsePatterns (request.effective settings).toInclude = .ok included →
      Selection.parsePatterns (request.effective settings).toExclude = .error fault →
      request.performBy schedule.carryOut files settings =
        .failed (.badSelection (.invalidExclude fault))) ∧
    (∀ selection error,
      Selection.parse (request.effective settings).toInclude
        (request.effective settings).toExclude = .ok selection →
      loadModel files request.model = .error error →
      request.performBy schedule.carryOut files settings = .failed error) ∧
    (∀ selection model,
      Selection.parse (request.effective settings).toInclude
        (request.effective settings).toExclude = .ok selection →
      loadModel files request.model = .ok model →
      let analyzer := request.analyzer settings selection
      let included := model.interfaces.filter selection.includes
      let run := schedule.carryOut analyzer model
      let ended := request.performBy schedule.carryOut files settings
      (¬ analyzer.Unfailing model.interfaces →
        ended.output = "" ∧
        ∃ interface ∈ included, ∃ cause, (analyzer.engine.infer interface).result = .error cause ∧
          ended.error? =
            some (.stoppedAnalysis (.explicitFields interface.qualifiedName cause))) ∧
      (analyzer.Unfailing model.interfaces →
        analyzer.Covers model.interfaces run ∧
        (request.json = true →
          ended.output = run.registry.catalog.toJson.pretty ++ "\n" ∧
          Json.readText Catalog.reader ended.output = .ok run.registry.catalog) ∧
        (request.json = false →
          Describes ended.output run.registry.catalog.events
            (included.map (·.qualifiedName)).dedup.length
            (included.flatMap analyzer.warnings).length) ∧
        run.diagnostics.length = (included.flatMap analyzer.warnings).length ∧
        ended.error? = (if request.denyWarnings = true ∧ run.diagnostics ≠ [] then
          some (.deniedWarnings run.diagnostics.length) else none))) ∧
    ∀ deny,
      ({ request with denyWarnings := deny }.performBy schedule.carryOut files settings).output =
          (request.performBy schedule.carryOut files settings).output ∧
        ({ request with denyWarnings := deny }.performBy schedule.carryOut files settings).log =
          (request.performBy schedule.carryOut files settings).log := by
  refine ⟨?sequential, ?includes, ?excludes, ?models, ?loaded,
    performBy_denyWarnings schedule.carryOut request files settings⟩
  case sequential =>
    rw [Schedule.carryOut_inOrder]
    rfl
  case includes =>
    intro fault invalid
    apply performBy_of_invalid
    rw [Selection.parse, invalid]
  case excludes =>
    intro included fault valid invalid
    apply performBy_of_invalid
    rw [Selection.parse, valid]
    simp only [invalid]
  case models =>
    intro selection error parsed unread
    exact performBy_of_unread request parsed unread
  case loaded =>
    intro selection model parsed loaded
    simp only [performBy_of_loaded request parsed loaded]
    constructor
    · intro fails
      obtain ⟨silent, interface, member, included, cause, causes, stopped⟩ :=
        request.conclude_of_failing (schedule (request.analyzer settings selection) model) fails
      exact ⟨silent, interface, List.mem_filter.2 ⟨member, included⟩, cause, causes, stopped⟩
    · intro unfailing
      have covers := (schedule (request.analyzer settings selection) model).covers unfailing
      have wellFormed := (schedule (request.analyzer settings selection) model).wellFormed_catalog
        Resolver.sound_parsing (loaded_of_loadModel loaded).wellFormed
      exact ⟨covers, fun asJson => request.readText_conclude covers asJson wellFormed,
        request.describes_conclude covers, covers.diagnostics_perm.length_eq,
        request.error?_conclude covers⟩

/-- In the sample the warning is denied after a report on both events, and JSON is read as
their catalog; a pattern that is not valid is reported although there is no model. -/
theorem AnalyzeRequest.prints_all_or_nothing_sample :
    (Sample.denying.performBy Sample.backwards.carryOut (Sample.file Sample.warnedText) {}).output =
      "C\n  (no fields)\nD\n  foo: Int\n\n2 events, 1 warnings\n" ∧
    (Sample.denying.performBy Sample.backwards.carryOut (Sample.file Sample.warnedText) {}).error? =
      some (.deniedWarnings 1) ∧
    ({ Sample.denying with json := true }.performBy Sample.backwards.carryOut
      (Sample.file Sample.warnedText) {}).output = Sample.warnedJson ∧
    Json.readText Catalog.reader Sample.warnedJson = .ok Sample.warnedCatalog ∧
    { Sample.denying with toInclude := ["["] }.performBy Sample.backwards.carryOut
      (fun _ => none) {} = .failed (.badSelection (.invalidInclude .unbalanced)) := by
  have unfailing : (Sample.denying.analyzer {} ⟨[], []⟩).Unfailing Sample.warned.interfaces := by
    rw [Analyzer.unfailing_iff]
    decide +kernel
  have left : (Sample.backwards.carryOut (Sample.denying.analyzer {} ⟨[], []⟩)
      Sample.warned).registry.catalog = Sample.warnedCatalog := by decide +kernel
  have printed : ({ Sample.denying with json := true }.performBy Sample.backwards.carryOut
      (Sample.file Sample.warnedText) {}).output = Sample.warnedJson := by decide +kernel
  have counted : (Sample.backwards.carryOut (Sample.denying.analyzer {} ⟨[], []⟩)
      Sample.warned).diagnostics.length = 1 := by decide +kernel
  obtain ⟨-, -, -, -, asText, -⟩ := prints_all_or_nothing Sample.backwards Sample.denying
    (Sample.file Sample.warnedText) {}
  obtain ⟨-, -, -, -, ended⟩ :=
    (asText ⟨[], []⟩ Sample.warned rfl Sample.loadModel_warned).2 unfailing
  obtain ⟨-, -, -, -, asJson, -⟩ := prints_all_or_nothing Sample.backwards
    { Sample.denying with json := true } (Sample.file Sample.warnedText) {}
  obtain ⟨-, readBack, -⟩ :=
    (asJson ⟨[], []⟩ Sample.warned rfl Sample.loadModel_warned).2 unfailing
  obtain ⟨-, invalid, -⟩ := prints_all_or_nothing Sample.backwards
    { Sample.denying with toInclude := ["["] } (fun _ => none) {}
  refine ⟨by decide +kernel, ?denied, printed, ?readBack, invalid _ rfl⟩
  case denied =>
    have raised : _ ≠ [] := List.ne_nil_of_length_pos (counted.symm ▸ Nat.one_pos)
    rw [ended, counted, if_pos ⟨rfl, raised⟩]
  case readBack =>
    rw [← printed, ← left]
    exact (readBack rfl).2

end EventFields

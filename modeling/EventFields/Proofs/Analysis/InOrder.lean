import EventFields.Proofs.Analysis.Tasks
import EventFields.Proofs.Inference.Failure

/-!
# Analysis in order

An analysis in order carries out the tasks of the included interfaces, one after
the other, up to the first that fails.  What it leaves behind is what these tasks
contribute.  If one fails, nothing is known of the interfaces after it; if none
does, the last of the included interfaces with a name decides what is held under
it.
-/

namespace EventFields

/-- A run that fails does not log that it is complete. -/
theorem AnalysisRun.logEvent_not_mem_log {run : AnalysisRun} {error : AnalysisError}
    (failed : run.result = .error error) (stats : AnalysisStats) : stats.logEvent ∉ run.log := by
  simp only [log, failed, List.append_nil]
  intro logged
  obtain ⟨diagnostic, -, same⟩ := List.mem_map.1 logged
  have levels := congrArg LogEvent.level same
  cases levels

/-! ## A sample

One interface has a bad list behind an unknown method, another one is the same
but hidden, and two interfaces have one name. -/

namespace Sample

/-- An analysis that leaves out what is hidden. -/
def analyzer : Analyzer where
  settings := { overrideType := some "Fields" }
  policy := fun interface => interface.sourceFile ≠ some "Hidden"
  resolver := engine.resolver

def broken : Interface where
  qualifiedName := ⟨"org.example.Broken", by decide⟩
  methods := [mover, { lister with annotations := [listing ["fooInt"]] }, getter]

def hidden : Interface := { broken with sourceFile := some "Hidden" }

def revised : Interface := { mixed with methods := [getter] }

/-- A registry with two of the names. -/
def registry : Registry :=
  (Registry.empty.record mixed.qualifiedName .empty).record listed.qualifiedName
    (.ofList [(id, .plain "Long")])

end Sample

namespace Analyzer

variable {analyzer : Analyzer}

/-! ## Up to the first failure -/

theorem throughFailure_append {before : List Interface}
    (passes : ∀ interface ∈ before, analyzer.failure? interface = none)
    (rest : List Interface) :
    analyzer.throughFailure (before ++ rest) = before ++ analyzer.throughFailure rest := by
  induction before with
  | nil => rfl
  | cons interface later ih =>
      have firstPasses := passes interface List.mem_cons_self
      have laterPasses := ih fun other member =>
        passes other (List.mem_cons_of_mem interface member)
      simp [throughFailure, firstPasses, laterPasses]

theorem throughFailure_eq_self {interfaces : List Interface}
    (passes : ∀ interface ∈ interfaces, analyzer.failure? interface = none) :
    analyzer.throughFailure interfaces = interfaces := by
  have appended := throughFailure_append passes []
  simpa [throughFailure] using appended

theorem throughFailure_append_cons {before after : List Interface} {failing : Interface}
    (passes : ∀ interface ∈ before, analyzer.failure? interface = none)
    (fails : (analyzer.failure? failing).isSome) :
    analyzer.throughFailure (before ++ failing :: after) = before ++ [failing] := by
  rw [throughFailure_append passes]
  simp [throughFailure, fails]

/-- Among the included interfaces of a list, one is the first that fails. -/
structure FirstFailure (analyzer : Analyzer) (interfaces before : List Interface)
    (failing : Interface) (cause : ValidationError) : Prop where
  split : ∃ after, interfaces = before ++ failing :: after
  included : analyzer.policy failing = true
  fails : (analyzer.engine.infer failing).result = .error cause
  unfailing : analyzer.Unfailing before

theorem exists_firstFailure {interfaces : List Interface}
    (fails : ∃ interface ∈ interfaces, analyzer.policy interface = true ∧
      ∃ cause, (analyzer.engine.infer interface).result = .error cause) :
    ∃ before failing cause, analyzer.FirstFailure interfaces before failing cause := by
  obtain ⟨interface, member, included, failed⟩ := fails
  have found : (interfaces.find? fun interface =>
      analyzer.policy interface && (analyzer.failure? interface).isSome).isSome := by
    rw [List.find?_isSome]
    exact ⟨interface, member, by simp [included, isSome_failure?_iff.2 failed]⟩
  obtain ⟨failing, first⟩ := Option.isSome_iff_exists.1 found
  obtain ⟨holds, before, after, split, earlier⟩ := List.find?_eq_some_iff_append.1 first
  rw [Bool.and_eq_true, isSome_failure?_iff] at holds
  obtain ⟨included, cause, fails⟩ := holds
  refine ⟨before, failing, cause, ⟨after, split⟩, included, fails, ?_⟩
  intro interface member included
  have passes := earlier interface member
  rw [← failure?_eq_none_iff]
  simpa [included] using passes

/-! ## The whole run -/

theorem analyzeOne_eq (analyzer : Analyzer) (progress : Progress) (interface : Interface) :
    analyzer.analyzeOne progress interface =
      { registry := progress.registry.recordAll (analyzer.recorded? interface).toList
        diagnostics := progress.diagnostics ++ analyzer.warnings interface
        failure? := progress.failure?.or (analyzer.failure? interface) } := by
  simp only [analyzeOne, recorded?, failure?, warnings]
  cases (analyzer.engine.infer interface).result with
  | ok fields => simp [Except.toOption]
  | error cause => simp [Except.toOption]

/-- An analysis in order leaves behind what the tasks up to the first failure
contribute. -/
theorem analyzeAll_eq (analyzer : Analyzer) {progress : Progress}
    (unfailed : progress.failure? = none) (interfaces : List Interface) :
    analyzer.analyzeAll progress interfaces =
      { registry := progress.registry.recordAll
          ((analyzer.throughFailure interfaces).filterMap analyzer.recorded?)
        diagnostics := progress.diagnostics ++
          (analyzer.throughFailure interfaces).flatMap analyzer.warnings
        failure? := (analyzer.throughFailure interfaces).findSome? analyzer.failure? } := by
  induction interfaces generalizing progress with
  | nil =>
      cases progress
      simp_all [analyzeAll, throughFailure]
  | cons interface rest ih =>
      have advanced := analyzer.analyzeOne_eq progress interface
      rw [unfailed, Option.none_or] at advanced
      simp only [analyzeAll, throughFailure]
      cases failed : analyzer.failure? interface with
      | some error =>
          rw [failed] at advanced
          simp [advanced, failed, List.filterMap_eq_flatMap_toList]
      | none =>
          rw [failed] at advanced
          have unfailed : (analyzer.analyzeOne progress interface).failure? = none := by
            rw [advanced]
          have later := ih unfailed
          simp only [advanced] at later ⊢
          simp [later, failed, List.filterMap_eq_flatMap_toList]

/-- The analysis in order is an execution of its tasks.  A sink that has received
warnings before receives the others behind them, and does not change the rest. -/
theorem run_inOrder (analyzer : Analyzer) (interfaces : List Interface) (registry : Registry)
    (received : List Diagnostic) :
    (Execution.inOrder analyzer interfaces).run registry received =
      { analyzer.analyzeInto interfaces registry with
        diagnostics := received ++ (analyzer.analyzeInto interfaces registry).diagnostics } := by
  have reached : analyzer.analyzeAll ⟨registry, [], none⟩ (interfaces.filter analyzer.policy) = _ :=
    analyzer.analyzeAll_eq rfl _
  simp only [Execution.run, Shared.performAll_eq, Execution.inOrder, Execution.oneByOne,
    filterMap_record?_flatMap_task, filterMap_warning?_flatMap_task, analyzeInto, reached,
    List.nil_append, Nat.zero_add]
  cases (analyzer.throughFailure (interfaces.filter analyzer.policy)).findSome?
    analyzer.failure? <;> rfl

/-- An analysis in which no included interface fails. -/
theorem analyzeInto_of_unfailing {interfaces : List Interface}
    (unfailing : analyzer.Unfailing interfaces) (registry : Registry) :
    analyzer.analyzeInto interfaces registry =
      { registry := registry.recordAll
          ((interfaces.filter analyzer.policy).filterMap analyzer.recorded?)
        diagnostics := (interfaces.filter analyzer.policy).flatMap analyzer.warnings
        result := .ok {
          seen := interfaces.length
          analysed := (interfaces.filter analyzer.policy).length
          skipped := interfaces.length - (interfaces.filter analyzer.policy).length
          warnings := ((interfaces.filter analyzer.policy).flatMap
            analyzer.warnings).length } } := by
  have passes := unfailing_iff.1 unfailing
  have unfailed := List.findSome?_eq_none_iff.2 passes
  rw [analyzeInto, analyzer.analyzeAll_eq rfl, throughFailure_eq_self passes, unfailed]
  rfl

/-- An analysis whose first failing interface is known. -/
theorem FirstFailure.analyzeInto_eq {interfaces before : List Interface} {failing : Interface}
    {cause : ValidationError}
    (first : analyzer.FirstFailure interfaces before failing cause) (registry : Registry) :
    analyzer.analyzeInto interfaces registry =
      { registry := registry.recordAll
          ((before.filter analyzer.policy).filterMap analyzer.recorded?)
        diagnostics := (before.filter analyzer.policy).flatMap analyzer.warnings ++
          analyzer.warnings failing
        result := .error (.explicitFields failing.qualifiedName cause) } := by
  obtain ⟨after, rfl⟩ := first.split
  have fails : analyzer.failure? failing =
      some (.explicitFields failing.qualifiedName cause) :=
    failure?_eq_some_iff.2 ⟨cause, first.fails, rfl⟩
  have unrecorded : analyzer.recorded? failing = none := by
    simp [recorded?, first.fails, Except.toOption]
  have passes := unfailing_iff.1 first.unfailing
  have unfailed := List.findSome?_eq_none_iff.2 passes
  rw [analyzeInto, analyzer.analyzeAll_eq rfl, List.filter_append,
    List.filter_cons_of_pos first.included, throughFailure_append_cons passes (by simp [fails])]
  simp [finish, unrecorded, List.findSome?_append, unfailed, fails]

/-- An analysis fails exactly if an included interface does. -/
theorem exists_analyzeInto_error_iff {interfaces : List Interface} (registry : Registry) :
    (∃ error, (analyzer.analyzeInto interfaces registry).result = .error error) ↔
      ∃ interface ∈ interfaces, analyzer.policy interface = true ∧
        ∃ cause, (analyzer.engine.infer interface).result = .error cause := by
  constructor
  · rintro ⟨error, failed⟩
    rw [← not_unfailing_iff]
    intro unfailing
    rw [analyzeInto_of_unfailing unfailing] at failed
    cases failed
  · intro fails
    obtain ⟨before, failing, cause, first⟩ := exists_firstFailure fails
    rw [first.analyzeInto_eq]
    exact ⟨_, rfl⟩

theorem unfailing_of_result {interfaces : List Interface} {registry : Registry}
    {stats : AnalysisStats}
    (succeeds : (analyzer.analyzeInto interfaces registry).result = .ok stats) :
    analyzer.Unfailing interfaces := by
  by_contra fails
  obtain ⟨error, failed⟩ :=
    (exists_analyzeInto_error_iff registry).2 (not_unfailing_iff.1 fails)
  cases failed.symm.trans succeeds

/-- An analysis that fails stops cleanly at the first included interface that fails.

* It fails exactly if some included interface does.
* The error is that of the first one.  Recorded are the mappings of the included
  interfaces before it, and no name is lost.
* The warnings are those of the included interfaces before it, followed by those
  of the methods that inference gets through before its own failure.
* The log says nothing of a completed analysis. -/
theorem analyzeInto_stops (analyzer : Analyzer) (interfaces : List Interface)
    (registry : Registry) :
    ((∃ error, (analyzer.analyzeInto interfaces registry).result = .error error) ↔
      ∃ interface ∈ interfaces, analyzer.policy interface = true ∧
        ∃ cause, (analyzer.engine.infer interface).result = .error cause) ∧
    (∀ error, (analyzer.analyzeInto interfaces registry).result = .error error →
      ∃ before failing cause passed, analyzer.FirstFailure interfaces before failing cause ∧
        error = .explicitFields failing.qualifiedName cause ∧
        (analyzer.analyzeInto interfaces registry).registry = registry.recordAll
          ((before.filter analyzer.policy).filterMap analyzer.recorded?) ∧
        (∀ name, (registry.get? name).isSome →
          ((analyzer.analyzeInto interfaces registry).registry.get? name).isSome) ∧
        analyzer.engine.FailsAfter failing cause passed ∧
        (analyzer.analyzeInto interfaces registry).diagnostics =
          (before.filter analyzer.policy).flatMap analyzer.warnings ++
            (analyzer.engine.inferMethods failing.qualifiedName .empty passed).diagnostics ∧
        ∀ stats : AnalysisStats,
          stats.logEvent ∉ (analyzer.analyzeInto interfaces registry).log) := by
  refine ⟨exists_analyzeInto_error_iff registry, ?_⟩
  intro error failed
  obtain ⟨before, failing, cause, first⟩ :=
    exists_firstFailure ((exists_analyzeInto_error_iff registry).1 ⟨error, failed⟩)
  obtain ⟨passed, failsAfter⟩ := InferenceEngine.infer_result_eq_error_iff.1 first.fails
  have uncompleted := AnalysisRun.logEvent_not_mem_log failed
  rw [first.analyzeInto_eq] at failed uncompleted ⊢
  cases failed
  refine ⟨before, failing, cause, passed, first, rfl, rfl, ?_, failsAfter, ?_, uncompleted⟩
  · intro name held
    exact Registry.isSome_get?_recordAll _ held
  · simp only [warnings, InferenceRun.diagnostics, failsAfter.events_eq]

/-- In the sample the hidden interface is passed over, and the broken one stops the
analysis.  The name of the interface behind it stays. -/
theorem analyzeInto_stops_sample :
    (Sample.analyzer.analyzeInto [Sample.mixed, Sample.hidden, Sample.broken, Sample.listed]
      Sample.registry).result =
        .error (.explicitFields Sample.broken.qualifiedName (.malformedEntry "fooInt")) ∧
    (∃ failing cause, (Sample.analyzer.engine.infer failing).result = .error cause ∧
      AnalysisError.explicitFields Sample.broken.qualifiedName (.malformedEntry "fooInt") =
        .explicitFields failing.qualifiedName cause) ∧
    ((Sample.analyzer.analyzeInto [Sample.mixed, Sample.hidden, Sample.broken, Sample.listed]
      Sample.registry).registry.get? "org.example.Listed").isSome := by
  have failed : (Sample.analyzer.analyzeInto
      [Sample.mixed, Sample.hidden, Sample.broken, Sample.listed] Sample.registry).result =
        .error (.explicitFields Sample.broken.qualifiedName (.malformedEntry "fooInt")) := by
    decide +kernel
  obtain ⟨-, stops⟩ := analyzeInto_stops Sample.analyzer
    [Sample.mixed, Sample.hidden, Sample.broken, Sample.listed] Sample.registry
  obtain ⟨_, failing, cause, _, first, named, -, kept, -⟩ := stops _ failed
  exact ⟨failed, ⟨failing, cause, first.fails, named⟩, kept _ (by decide +kernel)⟩

/-- The last included interface with a name decides what is held under it. -/
theorem get?_recordAll_of_last {before after : List Interface} {interface : Interface}
    {fields : FieldMapping} (included : analyzer.policy interface = true)
    (infers : (analyzer.engine.infer interface).result = .ok fields)
    (last : ∀ later ∈ after, analyzer.policy later = true →
      later.qualifiedName ≠ interface.qualifiedName) (registry : Registry) :
    (registry.recordAll (((before ++ interface :: after).filter analyzer.policy).filterMap
      analyzer.recorded?)).get? interface.qualifiedName.text = some fields := by
  have recorded : analyzer.recorded? interface = some (interface.qualifiedName, fields) :=
    recorded?_eq_some_iff.2 ⟨infers, rfl⟩
  rw [List.filter_append, List.filter_cons_of_pos included, List.filterMap_append,
    List.filterMap_cons_some recorded, Registry.get?_recordAll, Registry.lastRecorded?_of_last,
    Option.some_or]
  intro record member
  obtain ⟨later, chosen, -, sameName⟩ := mem_filterMap_recorded?_iff.1 member
  obtain ⟨member, included⟩ := List.mem_filter.1 chosen
  rw [sameName]
  exact last later member included

/-- A name that no included interface has keeps what is held under it. -/
theorem get?_recordAll_of_absent {interfaces : List Interface} {name : String}
    (absent : ∀ interface ∈ interfaces, analyzer.policy interface = true →
      interface.qualifiedName.text ≠ name) (registry : Registry) :
    (registry.recordAll ((interfaces.filter analyzer.policy).filterMap
      analyzer.recorded?)).get? name = registry.get? name := by
  have unrecorded : Registry.lastRecorded?
      ((interfaces.filter analyzer.policy).filterMap analyzer.recorded?) name = none := by
    rw [Registry.lastRecorded?_eq_none_iff]
    intro record member
    obtain ⟨interface, chosen, -, sameName⟩ := mem_filterMap_recorded?_iff.1 member
    obtain ⟨member, included⟩ := List.mem_filter.1 chosen
    rw [sameName]
    exact absent interface member included
  rw [Registry.get?_recordAll, unrecorded, Option.none_or]

/-- An analysis that succeeds records the right things.

* Under each name is held the mapping of the last included interface with that
  name or, if there is none, what was held before.
* The numbers count what they say.
* The warnings are those of all included interfaces, one interface after the
  other, whether or not a later one takes its name.
* For a sink that has received warnings before, these are received behind them,
  and nothing else changes. -/
theorem analyzeInto_records (analyzer : Analyzer) (interfaces : List Interface)
    (registry : Registry) (stats : AnalysisStats)
    (succeeds : (analyzer.analyzeInto interfaces registry).result = .ok stats) :
    (∀ before interface after, interfaces = before ++ interface :: after →
      analyzer.policy interface = true →
      (∀ later ∈ after, analyzer.policy later = true →
        later.qualifiedName ≠ interface.qualifiedName) →
      ∃ fields, (analyzer.engine.infer interface).result = .ok fields ∧
        (analyzer.analyzeInto interfaces registry).registry.get?
          interface.qualifiedName.text = some fields) ∧
    (∀ name, (∀ interface ∈ interfaces, analyzer.policy interface = true →
        interface.qualifiedName.text ≠ name) →
      (analyzer.analyzeInto interfaces registry).registry.get? name = registry.get? name) ∧
    stats.seen = interfaces.length ∧
    stats.analysed = interfaces.countP analyzer.policy ∧
    stats.seen = stats.analysed + stats.skipped ∧
    (analyzer.analyzeInto interfaces registry).diagnostics =
      (interfaces.filter analyzer.policy).flatMap analyzer.warnings ∧
    stats.warnings = (analyzer.analyzeInto interfaces registry).diagnostics.length ∧
    ∀ received, (Execution.inOrder analyzer interfaces).run registry received =
      { analyzer.analyzeInto interfaces registry with
        diagnostics := received ++ (analyzer.analyzeInto interfaces registry).diagnostics } := by
  have unfailing : analyzer.Unfailing interfaces := by
    by_contra fails
    obtain ⟨error, failed⟩ :=
      (exists_analyzeInto_error_iff registry).2 (not_unfailing_iff.1 fails)
    rw [succeeds] at failed
    cases failed
  have inOrder := analyzer.run_inOrder interfaces registry
  rw [analyzeInto_of_unfailing unfailing] at succeeds inOrder ⊢
  cases succeeds
  refine ⟨?_, ?_, rfl, ?_, ?_, rfl, rfl, inOrder⟩
  · rintro before interface after rfl included last
    obtain ⟨fields, infers⟩ := unfailing interface (by simp) included
    exact ⟨fields, infers, get?_recordAll_of_last included infers last registry⟩
  · intro name absent
    exact get?_recordAll_of_absent absent registry
  · exact List.countP_eq_length_filter.symm
  · have fewer := List.length_filter_le analyzer.policy interfaces
    exact (Nat.add_sub_of_le fewer).symm

/-- In the sample the later interface takes the name that both have, but the
warnings of the earlier one are counted. -/
theorem analyzeInto_records_sample :
    (Sample.analyzer.analyzeInto [Sample.mixed, Sample.hidden, Sample.revised]
      Sample.registry).result = .ok ⟨3, 2, 1, 2⟩ ∧
    (∃ fields, (Sample.analyzer.engine.infer Sample.revised).result = .ok fields ∧
      (Sample.analyzer.analyzeInto [Sample.mixed, Sample.hidden, Sample.revised]
        Sample.registry).registry.get? "org.example.Mixed" = some fields) ∧
    (Sample.analyzer.analyzeInto [Sample.mixed, Sample.hidden, Sample.revised]
      Sample.registry).registry.get? "org.example.Listed" =
        Sample.registry.get? "org.example.Listed" ∧
    2 = (Sample.analyzer.analyzeInto [Sample.mixed, Sample.hidden, Sample.revised]
      Sample.registry).diagnostics.length := by
  have succeeds : (Sample.analyzer.analyzeInto [Sample.mixed, Sample.hidden, Sample.revised]
      Sample.registry).result = .ok ⟨3, 2, 1, 2⟩ := by decide +kernel
  obtain ⟨last, kept, -, -, -, -, number, -⟩ := analyzeInto_records _ _ _ _ succeeds
  refine ⟨succeeds, last [Sample.mixed, Sample.hidden] Sample.revised [] rfl ?_ (by simp),
    kept "org.example.Listed" ?_, number⟩
  · decide +kernel
  · decide +kernel

end Analyzer

end EventFields

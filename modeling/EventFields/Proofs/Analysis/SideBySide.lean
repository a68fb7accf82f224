import EventFields.Proofs.Analysis.InOrder
import Mathlib.Data.List.Nodup

/-!
# Tasks that run side by side

Inference depends on nothing that tasks share, so the order of tasks can only
show where they write to the same place: in the order of the warnings, and in
the registry under names that several interfaces have.  If these infer the same
mapping, every execution agrees with the analysis in order; otherwise some order
of the tasks leaves another catalog behind.  After a failure tasks may be left
out, and all that is certain is that nothing is lost and nothing is made up.
-/

namespace EventFields

/-- Included interfaces with one name infer one mapping. -/
def Analyzer.Consistent (analyzer : Analyzer) (interfaces : List Interface) : Prop :=
  ∀ first ∈ interfaces, ∀ second ∈ interfaces,
    analyzer.policy first = true → analyzer.policy second = true →
    first.qualifiedName = second.qualifiedName →
    (analyzer.engine.infer first).result = (analyzer.engine.infer second).result

theorem Analyzer.consistent_of_nodup {analyzer : Analyzer} {interfaces : List Interface}
    (nodup : ((interfaces.filter analyzer.policy).map (·.qualifiedName)).Nodup) :
    analyzer.Consistent interfaces := by
  intro first firstMember second secondMember firstIncluded secondIncluded sameName
  have same : first = second := by
    apply List.inj_on_of_nodup_map nodup
    · exact List.mem_filter.2 ⟨firstMember, firstIncluded⟩
    · exact List.mem_filter.2 ⟨secondMember, secondIncluded⟩
    · exact sameName
  rw [same]

/-- An execution of the sample in which the broken interface takes effect first, and
the others are left out. -/
def Sample.brokenFirst : Execution Sample.analyzer
    [Sample.mixed, Sample.hidden, Sample.broken, Sample.revised] :=
  .oneByOne _ _ [Sample.broken] [Sample.mixed, Sample.revised] (by decide +kernel)
    fun _ => ⟨Sample.broken, by simp, by decide +kernel⟩

namespace Execution

variable {analyzer : Analyzer} {interfaces : List Interface}

/-! ## Without a failure -/

/-- If no task that is carried out fails, all tasks are carried out. -/
theorem performed_perm (execution : Execution analyzer interfaces)
    (passes : ∀ interface ∈ execution.performed, analyzer.failure? interface = none) :
    execution.performed.Perm (interfaces.filter analyzer.policy) := by
  have nothingOmitted : execution.omitted = [] := by
    by_contra omits
    obtain ⟨interface, member, failed⟩ := execution.fails_of_omits omits
    simp [passes interface member] at failed
  have perm := execution.perm_included
  rw [nothingOmitted, List.append_nil] at perm
  exact perm

theorem performed_passes (execution : Execution analyzer interfaces)
    (unfailing : analyzer.Unfailing interfaces) :
    ∀ interface ∈ execution.performed, analyzer.failure? interface = none := by
  intro interface performed
  obtain ⟨member, included⟩ := execution.included_of_mem_performed performed
  exact Analyzer.failure?_eq_none_iff.2 (unfailing interface member included)

/-- An execution reports a failure unless no included interface fails. -/
theorem reported?_eq_none_iff (execution : Execution analyzer interfaces) :
    execution.reported? = none ↔ analyzer.Unfailing interfaces := by
  constructor
  · intro unreported
    have passes : ∀ interface ∈ execution.performed, analyzer.failure? interface = none := by
      intro interface performed
      by_contra failed
      have reported := execution.isSome_reported interface performed
        (Option.isSome_iff_ne_none.2 failed)
      simp [unreported] at reported
    rw [Analyzer.unfailing_iff]
    intro interface chosen
    exact passes interface ((execution.performed_perm passes).mem_iff.2 chosen)
  · intro unfailing
    cases reported : execution.reported? with
    | none => rfl
    | some error =>
        obtain ⟨interface, performed, failed⟩ := execution.fails_of_reported error reported
        simp [execution.performed_passes unfailing interface performed] at failed

/-- An execution succeeds exactly if no included interface fails. -/
theorem exists_ok_iff (execution : Execution analyzer interfaces) (registry : Registry)
    (received : List Diagnostic) :
    (∃ stats, (execution.run registry received).result = .ok stats) ↔
      analyzer.Unfailing interfaces := by
  rw [← execution.reported?_eq_none_iff]
  cases reported : execution.reported? with
  | none =>
      have result := execution.run_result_of_unreported reported registry received
      simp [result]
  | some error =>
      have result := execution.run_result_of_reported reported registry received
      simp [result]

/-! ## With or without failures -/

/-- What an execution records has been inferred for an included interface. -/
theorem inferred_of_mem_records (execution : Execution analyzer interfaces)
    {record : Registry.Record} (member : record ∈ execution.records) :
    ∃ interface ∈ interfaces, analyzer.policy interface = true ∧
      interface.qualifiedName = record.1 ∧
      (analyzer.engine.infer interface).result = .ok record.2 := by
  rw [execution.records_perm.mem_iff, Analyzer.mem_filterMap_recorded?_iff] at member
  obtain ⟨interface, performed, infers, name⟩ := member
  obtain ⟨member, included⟩ := execution.included_of_mem_performed performed
  exact ⟨interface, member, included, name.symm, infers⟩

/-- The failure that is reported is that of an included interface. -/
theorem exists_cause_of_error (execution : Execution analyzer interfaces) {registry : Registry}
    {received : List Diagnostic} {error : AnalysisError}
    (failed : (execution.run registry received).result = .error error) :
    ∃ interface ∈ interfaces, analyzer.policy interface = true ∧
      ∃ cause, (analyzer.engine.infer interface).result = .error cause ∧
        error = .explicitFields interface.qualifiedName cause := by
  cases reported : execution.reported? with
  | none =>
      rw [execution.run_result_of_unreported reported] at failed
      cases failed
  | some first =>
      rw [execution.run_result_of_reported reported] at failed
      cases failed
      obtain ⟨interface, performed, fails⟩ := execution.fails_of_reported error reported
      obtain ⟨member, included⟩ := execution.included_of_mem_performed performed
      exact ⟨interface, member, included, Analyzer.failure?_eq_some_iff.1 fails⟩

/-- What is held under a name was held before or has been inferred. -/
theorem get?_run_cases (execution : Execution analyzer interfaces) {registry : Registry}
    {received : List Diagnostic} {name : String} {fields : FieldMapping}
    (held : (execution.run registry received).registry.get? name = some fields) :
    registry.get? name = some fields ∨
      ∃ interface ∈ interfaces, analyzer.policy interface = true ∧
        interface.qualifiedName.text = name ∧
        (analyzer.engine.infer interface).result = .ok fields := by
  rw [execution.run_registry] at held
  rcases Registry.get?_recordAll_cases held with before | ⟨record, recorded, rfl, rfl⟩
  · exact .inl before
  · obtain ⟨interface, member, included, sameName, infers⟩ :=
      execution.inferred_of_mem_records recorded
    exact .inr ⟨interface, member, included, congrArg Name.text sameName, infers⟩

/-- An execution loses nothing, whether it fails or not, and whatever is left out.

* It succeeds exactly if no included interface fails, as the analysis in order does.
* The failure that is reported is that of an included interface.
* No name is lost, and what is held under a name was held before or has been
  inferred for an included interface with that name. -/
theorem run_keeps (execution : Execution analyzer interfaces) (registry : Registry)
    (received : List Diagnostic) :
    ((∃ stats, (execution.run registry received).result = .ok stats) ↔
      analyzer.Unfailing interfaces) ∧
    ((∃ stats, (execution.run registry received).result = .ok stats) ↔
      ∃ stats, (analyzer.analyzeInto interfaces registry).result = .ok stats) ∧
    (∀ error, (execution.run registry received).result = .error error →
      ∃ interface ∈ interfaces, analyzer.policy interface = true ∧
        ∃ cause, (analyzer.engine.infer interface).result = .error cause ∧
          error = .explicitFields interface.qualifiedName cause) ∧
    (∀ name, (registry.get? name).isSome →
      ((execution.run registry received).registry.get? name).isSome) ∧
    ∀ name fields, (execution.run registry received).registry.get? name = some fields →
      registry.get? name = some fields ∨
        ∃ interface ∈ interfaces, analyzer.policy interface = true ∧
          interface.qualifiedName.text = name ∧
          (analyzer.engine.infer interface).result = .ok fields := by
  refine ⟨execution.exists_ok_iff registry received, ?_, ?_, ?_, ?_⟩
  · have sequential := (inOrder analyzer interfaces).exists_ok_iff registry received
    rw [analyzer.run_inOrder] at sequential
    exact (execution.exists_ok_iff registry received).trans sequential.symm
  · intro error failed
    exact execution.exists_cause_of_error failed
  · intro name held
    rw [execution.run_registry]
    exact Registry.isSome_get?_recordAll _ held
  · intro name fields held
    exact execution.get?_run_cases held

/-- The failure that this execution reports is real, and a name that has not been
reached stays. -/
theorem run_keeps_sample :
    (Sample.brokenFirst.run Sample.registry []).result =
      .error (.explicitFields Sample.broken.qualifiedName (.malformedEntry "fooInt")) ∧
    (∃ interface cause, (Sample.analyzer.engine.infer interface).result = .error cause ∧
      AnalysisError.explicitFields Sample.broken.qualifiedName (.malformedEntry "fooInt") =
        .explicitFields interface.qualifiedName cause) ∧
    ((Sample.brokenFirst.run Sample.registry []).registry.get? "org.example.Listed").isSome := by
  have reported : (Sample.brokenFirst.run Sample.registry []).result =
      .error (.explicitFields Sample.broken.qualifiedName (.malformedEntry "fooInt")) := by
    decide +kernel
  obtain ⟨-, -, fails, kept, -⟩ := run_keeps Sample.brokenFirst Sample.registry []
  obtain ⟨interface, -, -, cause, causes, same⟩ := fails _ reported
  exact ⟨reported, ⟨interface, cause, causes, same⟩, kept _ (by decide +kernel)⟩

/-! ## Agreement with the analysis in order -/

theorem agree_records (execution : Execution analyzer interfaces)
    (consistent : analyzer.Consistent interfaces) : Registry.Agree execution.records := by
  intro first firstMember second secondMember sameName
  obtain ⟨one, oneMember, oneIncluded, oneName, oneInfers⟩ :=
    execution.inferred_of_mem_records firstMember
  obtain ⟨other, otherMember, otherIncluded, otherName, otherInfers⟩ :=
    execution.inferred_of_mem_records secondMember
  have sameResult := consistent one oneMember other otherMember oneIncluded otherIncluded
    (by rw [oneName, sameName, otherName])
  rw [oneInfers, otherInfers] at sameResult
  exact Except.ok.inj sameResult

/-- Executions without a failure carry out the same tasks. -/
theorem performed_perm_performed (left right : Execution analyzer interfaces)
    (unfailing : analyzer.Unfailing interfaces) : left.performed.Perm right.performed :=
  (left.performed_perm (left.performed_passes unfailing)).trans
    (right.performed_perm (right.performed_passes unfailing)).symm

theorem records_perm_records (left right : Execution analyzer interfaces)
    (unfailing : analyzer.Unfailing interfaces) : left.records.Perm right.records := by
  have perm := left.performed_perm_performed right unfailing
  exact left.records_perm.trans ((perm.filterMap _).trans right.records_perm.symm)

theorem warnings_perm_warnings (left right : Execution analyzer interfaces)
    (unfailing : analyzer.Unfailing interfaces) : left.warnings.Perm right.warnings := by
  have perm := left.performed_perm_performed right unfailing
  exact left.warnings_perm.trans ((perm.flatMap_right _).trans right.warnings_perm.symm)

/-- Records that agree leave the same registry behind in any order. -/
theorem run_registry_eq_analyzeInto (execution : Execution analyzer interfaces)
    (unfailing : analyzer.Unfailing interfaces) (consistent : analyzer.Consistent interfaces)
    (registry : Registry) (received : List Diagnostic) :
    (execution.run registry received).registry =
      (analyzer.analyzeInto interfaces registry).registry := by
  have records := execution.records_perm_records (inOrder analyzer interfaces) unfailing
  have sequential := congrArg AnalysisRun.registry
    (analyzer.run_inOrder interfaces registry received)
  rw [run_registry] at sequential ⊢
  rw [Registry.recordAll_eq_of_perm registry records (execution.agree_records consistent),
    sequential]

/-- The numbers do not depend on the order of the tasks, whatever these record. -/
theorem run_result_eq_analyzeInto (execution : Execution analyzer interfaces)
    (unfailing : analyzer.Unfailing interfaces) (registry : Registry)
    (received : List Diagnostic) :
    (execution.run registry received).result =
      (analyzer.analyzeInto interfaces registry).result := by
  have warnings := execution.warnings_perm_warnings (inOrder analyzer interfaces) unfailing
  have sequential := congrArg AnalysisRun.result
    (analyzer.run_inOrder interfaces registry received)
  rw [run_result_of_unreported _ ((reported?_eq_none_iff _).2 unfailing)] at sequential ⊢
  rw [warnings.length_eq, sequential]

/-- The warnings are the same, up to order. -/
theorem warnings_perm_analyzeInto (execution : Execution analyzer interfaces)
    (unfailing : analyzer.Unfailing interfaces) (registry : Registry) :
    execution.warnings.Perm (analyzer.analyzeInto interfaces registry).diagnostics := by
  have sequential := congrArg AnalysisRun.diagnostics
    (analyzer.run_inOrder interfaces registry [])
  rw [run_diagnostics, List.nil_append, List.nil_append] at sequential
  rw [← sequential]
  exact execution.warnings_perm_warnings (inOrder analyzer interfaces) unfailing

/-- Tasks are carried out as a whole, one after the other, and none is left out. -/
def WholeTasks (execution : Execution analyzer interfaces) : Prop :=
  execution.performed.Perm (interfaces.filter analyzer.policy) ∧
    execution.actions = execution.performed.flatMap analyzer.task

/-- Every included interface can be the last to take effect. -/
theorem exists_last {interface : Interface} (member : interface ∈ interfaces)
    (included : analyzer.policy interface = true) {fields : FieldMapping}
    (infers : (analyzer.engine.infer interface).result = .ok fields) :
    ∃ execution : Execution analyzer interfaces, execution.WholeTasks ∧
      ∀ registry received, (execution.run registry received).registry.get?
        interface.qualifiedName.text = some fields := by
  have chosen : interface ∈ interfaces.filter analyzer.policy :=
    List.mem_filter.2 ⟨member, included⟩
  obtain ⟨others, perm⟩ : ∃ others : List Interface,
      (others ++ [interface]).Perm (interfaces.filter analyzer.policy) :=
    ⟨_, (List.perm_append_singleton _ _).trans (List.perm_cons_erase chosen).symm⟩
  have nothingOmitted : (others ++ [interface] ++ []).Perm
      (interfaces.filter analyzer.policy) := by
    rw [List.append_nil]
    exact perm
  refine ⟨oneByOne analyzer interfaces _ [] nothingOmitted (absurd rfl), ⟨perm, rfl⟩, ?_⟩
  intro registry received
  have recorded : analyzer.recorded? interface = some (interface.qualifiedName, fields) :=
    Analyzer.recorded?_eq_some_iff.2 ⟨infers, rfl⟩
  have records := analyzer.filterMap_record?_flatMap_task (others ++ [interface])
  rw [List.filterMap_append, List.filterMap_cons_some recorded, List.filterMap_nil] at records
  rw [run_registry, Registry.get?_recordAll]
  simp only [Execution.records, oneByOne, records]
  rw [Registry.lastRecorded?_of_last (by simp), Option.some_or]

/-- A mapping that the analysis in order does not leave behind tells the two apart. -/
theorem exists_catalog_ne {interface : Interface} (member : interface ∈ interfaces)
    (included : analyzer.policy interface = true) {fields : FieldMapping}
    (infers : (analyzer.engine.infer interface).result = .ok fields) {registry : Registry}
    (differs : (analyzer.analyzeInto interfaces registry).registry.get?
      interface.qualifiedName.text ≠ some fields) :
    ∃ execution : Execution analyzer interfaces, execution.WholeTasks ∧
      ∀ received, (execution.run registry received).registry.catalog ≠
        (analyzer.analyzeInto interfaces registry).registry.catalog := by
  obtain ⟨execution, whole, last⟩ := exists_last member included infers
  refine ⟨execution, whole, ?_⟩
  intro received same
  apply differs
  rw [← Registry.eq_of_catalog same]
  exact last registry received

/-- Of two mappings for one name, the analysis in order leaves at most one behind. -/
theorem exists_catalog_ne_of_inconsistent (unfailing : analyzer.Unfailing interfaces)
    (inconsistent : ¬ analyzer.Consistent interfaces) (registry : Registry) :
    ∃ execution : Execution analyzer interfaces, execution.WholeTasks ∧
      ∀ received, (execution.run registry received).registry.catalog ≠
        (analyzer.analyzeInto interfaces registry).registry.catalog := by
  simp only [Analyzer.Consistent, not_forall] at inconsistent
  obtain ⟨first, firstMember, second, secondMember, firstIncluded, secondIncluded, sameName,
    differ⟩ := inconsistent
  obtain ⟨one, firstInfers⟩ := unfailing first firstMember firstIncluded
  obtain ⟨other, secondInfers⟩ := unfailing second secondMember secondIncluded
  by_cases held : (analyzer.analyzeInto interfaces registry).registry.get?
      first.qualifiedName.text = some one
  · apply exists_catalog_ne secondMember secondIncluded secondInfers
    rw [← sameName, held]
    rintro same
    rw [firstInfers, secondInfers, Option.some.inj same] at differ
    exact differ rfl
  · exact exists_catalog_ne firstMember firstIncluded firstInfers held

/-- If no included interface fails, executions agree with the analysis in order
exactly when they can.

* If included interfaces with one name infer one mapping, as they do if names are
  distinct, every execution leaves the same catalog behind, returns the same
  numbers and raises the same warnings, up to order.
* If two of them infer different mappings, some order of the tasks leaves another
  catalog behind. -/
theorem run_agrees_exactly (analyzer : Analyzer) (interfaces : List Interface)
    (registry : Registry) (unfailing : analyzer.Unfailing interfaces) :
    (((interfaces.filter analyzer.policy).map (·.qualifiedName)).Nodup →
      analyzer.Consistent interfaces) ∧
    (analyzer.Consistent interfaces →
      ∀ (execution : Execution analyzer interfaces) (received : List Diagnostic),
        (execution.run registry received).registry.catalog =
          (analyzer.analyzeInto interfaces registry).registry.catalog ∧
        (∃ stats, (execution.run registry received).result = .ok stats ∧
          (analyzer.analyzeInto interfaces registry).result = .ok stats) ∧
        ∃ raised, (execution.run registry received).diagnostics = received ++ raised ∧
          raised.Perm (analyzer.analyzeInto interfaces registry).diagnostics) ∧
    (¬ analyzer.Consistent interfaces →
      ∃ execution : Execution analyzer interfaces, execution.WholeTasks ∧
        ∀ received, (execution.run registry received).registry.catalog ≠
          (analyzer.analyzeInto interfaces registry).registry.catalog) := by
  refine ⟨Analyzer.consistent_of_nodup, ?_, ?_⟩
  · intro consistent execution received
    refine ⟨?catalog, ?numbers, execution.warnings, execution.run_diagnostics .., ?warnings⟩
    case catalog =>
      rw [execution.run_registry_eq_analyzeInto unfailing consistent]
    case numbers =>
      obtain ⟨stats, succeeds⟩ := (execution.exists_ok_iff registry received).2 unfailing
      refine ⟨stats, succeeds, ?_⟩
      rw [← execution.run_result_eq_analyzeInto unfailing registry received, succeeds]
    case warnings => exact execution.warnings_perm_analyzeInto unfailing registry
  · intro inconsistent
    exact exists_catalog_ne_of_inconsistent unfailing inconsistent registry

/-- In the sample different names agree in every execution, and two interfaces with
one name disagree in some order. -/
theorem run_agrees_exactly_sample :
    (∀ execution : Execution Sample.analyzer [Sample.mixed, Sample.hidden, Sample.listed],
      (execution.run Sample.registry []).registry.catalog =
        (Sample.analyzer.analyzeInto [Sample.mixed, Sample.hidden, Sample.listed]
          Sample.registry).registry.catalog) ∧
    ∃ execution : Execution Sample.analyzer [Sample.mixed, Sample.revised],
      (execution.run Sample.registry []).registry.catalog ≠
        (Sample.analyzer.analyzeInto [Sample.mixed, Sample.revised]
          Sample.registry).registry.catalog := by
  have unfailing : Sample.analyzer.Unfailing [Sample.mixed, Sample.hidden, Sample.listed] := by
    rw [Analyzer.unfailing_iff]
    decide +kernel
  have bothUnfailing : Sample.analyzer.Unfailing [Sample.mixed, Sample.revised] := by
    rw [Analyzer.unfailing_iff]
    decide +kernel
  have inconsistent : ¬ Sample.analyzer.Consistent [Sample.mixed, Sample.revised] := by
    unfold Analyzer.Consistent
    decide +kernel
  obtain ⟨distinct, agrees, -⟩ := run_agrees_exactly Sample.analyzer
    [Sample.mixed, Sample.hidden, Sample.listed] Sample.registry unfailing
  obtain ⟨-, -, differs⟩ := run_agrees_exactly Sample.analyzer [Sample.mixed, Sample.revised]
    Sample.registry bothUnfailing
  obtain ⟨execution, -, differ⟩ := differs inconsistent
  refine ⟨?_, execution, differ []⟩
  intro execution
  exact (agrees (distinct (by decide +kernel)) execution []).1

end Execution

end EventFields

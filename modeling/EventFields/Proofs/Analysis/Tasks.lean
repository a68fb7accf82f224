import EventFields.Analysis.Tasks
import EventFields.Proofs.Registry.History
import Mathlib.Data.List.Basic

/-!
# What tasks contribute

A task raises the warnings of its interface and, unless inference fails, records
one mapping.  Warnings and records do not disturb each other.  What actions leave
behind is therefore told by their records and their warnings, each in the order
in which they take effect; and over an execution both are, up to order, those of
the tasks that have been carried out.
-/

namespace EventFields

/-! ## Single interfaces -/

namespace Analyzer

variable {analyzer : Analyzer} {interface : Interface}

/-- The warnings that the task of an interface raises. -/
def warnings (analyzer : Analyzer) (interface : Interface) : List Diagnostic :=
  (analyzer.engine.infer interface).diagnostics

/-- What the task of an interface records, unless it fails. -/
def recorded? (analyzer : Analyzer) (interface : Interface) : Option Registry.Record :=
  (analyzer.engine.infer interface).result.toOption.map fun fields =>
    (interface.qualifiedName, fields)

theorem failure?_eq_some_iff {error : AnalysisError} :
    analyzer.failure? interface = some error ↔
      ∃ cause, (analyzer.engine.infer interface).result = .error cause ∧
        error = .explicitFields interface.qualifiedName cause := by
  simp only [failure?]
  cases (analyzer.engine.infer interface).result with
  | ok fields => simp
  | error cause => simp [eq_comm]

theorem failure?_eq_none_iff :
    analyzer.failure? interface = none ↔
      ∃ fields, (analyzer.engine.infer interface).result = .ok fields := by
  simp only [failure?]
  cases (analyzer.engine.infer interface).result with
  | ok fields => simp
  | error cause => simp

theorem isSome_failure?_iff :
    (analyzer.failure? interface).isSome ↔
      ∃ cause, (analyzer.engine.infer interface).result = .error cause := by
  simp only [failure?]
  cases (analyzer.engine.infer interface).result with
  | ok fields => simp
  | error cause => simp

/-- No included interface fails. -/
def Unfailing (analyzer : Analyzer) (interfaces : List Interface) : Prop :=
  ∀ interface ∈ interfaces, analyzer.policy interface = true →
    ∃ fields, (analyzer.engine.infer interface).result = .ok fields

theorem unfailing_iff {interfaces : List Interface} :
    analyzer.Unfailing interfaces ↔
      ∀ interface ∈ interfaces.filter analyzer.policy, analyzer.failure? interface = none := by
  simp only [Unfailing, List.forall_mem_filter, failure?_eq_none_iff]

theorem not_unfailing_iff {interfaces : List Interface} :
    ¬ analyzer.Unfailing interfaces ↔
      ∃ interface ∈ interfaces, analyzer.policy interface = true ∧
        ∃ cause, (analyzer.engine.infer interface).result = .error cause := by
  simp only [Unfailing, ← failure?_eq_none_iff, ← isSome_failure?_iff,
    Option.isSome_iff_ne_none, not_forall, exists_prop]

theorem recorded?_eq_some_iff {record : Registry.Record} :
    analyzer.recorded? interface = some record ↔
      (analyzer.engine.infer interface).result = .ok record.2 ∧
        record.1 = interface.qualifiedName := by
  simp only [recorded?]
  cases (analyzer.engine.infer interface).result with
  | ok fields => simp [Except.toOption, Prod.ext_iff, eq_comm, and_comm]
  | error cause => simp [Except.toOption]

/-- What interfaces record has been inferred for one of them. -/
theorem mem_filterMap_recorded?_iff {interfaces : List Interface} {record : Registry.Record} :
    record ∈ interfaces.filterMap analyzer.recorded? ↔
      ∃ interface ∈ interfaces, (analyzer.engine.infer interface).result = .ok record.2 ∧
        record.1 = interface.qualifiedName := by
  simp only [List.mem_filterMap, recorded?_eq_some_iff]

end Analyzer

/-! ## Actions -/

namespace TaskAction

/-- The warning that an action raises, if it raises one. -/
def warning? : TaskAction → Option Diagnostic
  | warn diagnostic => some diagnostic
  | record _ _ => none

/-- What an action records, if it records something. -/
def record? : TaskAction → Option Registry.Record
  | warn _ => none
  | record name fields => some (name, fields)

end TaskAction

theorem Shared.performAll_eq (shared : Shared) (actions : List TaskAction) :
    shared.performAll actions =
      { registry := shared.registry.recordAll (actions.filterMap (·.record?))
        received := shared.received ++ actions.filterMap (·.warning?)
        warnings := shared.warnings + (actions.filterMap (·.warning?)).length } := by
  induction actions generalizing shared with
  | nil => simp [performAll]
  | cons action rest ih =>
      have later := ih (shared.perform action)
      rw [performAll] at later ⊢
      rw [List.foldl_cons, later]
      cases action with
      | warn diagnostic =>
          simp [perform, TaskAction.warning?, TaskAction.record?]
          omega
      | record name fields => simp [perform, TaskAction.warning?, TaskAction.record?]

namespace Analyzer

theorem filterMap_warning?_task (analyzer : Analyzer) (interface : Interface) :
    (analyzer.task interface).filterMap (·.warning?) = analyzer.warnings interface := by
  have raised (diagnostics : List Diagnostic) :
      (diagnostics.map TaskAction.warn).filterMap (·.warning?) = diagnostics := by
    simp [List.filterMap_map, TaskAction.warning?]
  simp only [task, List.filterMap_append, raised]
  cases (analyzer.engine.infer interface).result <;> simp [warnings, TaskAction.warning?]

theorem filterMap_record?_task (analyzer : Analyzer) (interface : Interface) :
    (analyzer.task interface).filterMap (·.record?) =
      (analyzer.recorded? interface).toList := by
  have silent (diagnostics : List Diagnostic) :
      (diagnostics.map TaskAction.warn).filterMap (·.record?) = [] := by
    simp [List.filterMap_map, TaskAction.record?]
  simp only [task, List.filterMap_append, silent, List.nil_append, recorded?]
  cases (analyzer.engine.infer interface).result <;> rfl

theorem filterMap_warning?_flatMap_task (analyzer : Analyzer) (interfaces : List Interface) :
    (interfaces.flatMap analyzer.task).filterMap (·.warning?) =
      interfaces.flatMap analyzer.warnings := by
  rw [List.filterMap_flatMap]
  simp only [filterMap_warning?_task]

theorem filterMap_record?_flatMap_task (analyzer : Analyzer) (interfaces : List Interface) :
    (interfaces.flatMap analyzer.task).filterMap (·.record?) =
      interfaces.filterMap analyzer.recorded? := by
  rw [List.filterMap_flatMap, List.filterMap_eq_flatMap_toList]
  simp only [filterMap_record?_task]

end Analyzer

/-! ## Executions -/

/-- Turns are those of the threads, up to order. -/
theorem Interleaving.perm_flatten {α : Type} {threads : List (List α)} {turns : List α}
    (interleaving : Interleaving threads turns) : turns.Perm threads.flatten := by
  induction interleaving with
  | done exhausted => simp [List.flatten_eq_nil_iff.2 exhausted]
  | @step before after head rest turns _ ih =>
      simp only [List.flatten_append, List.flatten_cons, List.cons_append] at ih ⊢
      exact (ih.cons head).trans List.perm_middle.symm

namespace Execution

variable {analyzer : Analyzer} {interfaces : List Interface}

/-- What an execution records, in the order in which it is recorded. -/
def records (execution : Execution analyzer interfaces) : List Registry.Record :=
  execution.actions.filterMap (·.record?)

/-- The warnings of an execution, in the order in which they are raised. -/
def warnings (execution : Execution analyzer interfaces) : List Diagnostic :=
  execution.actions.filterMap (·.warning?)

theorem actions_perm (execution : Execution analyzer interfaces) :
    execution.actions.Perm (execution.performed.flatMap analyzer.task) := by
  rw [List.flatMap_def]
  exact execution.interleaving.perm_flatten

theorem records_perm (execution : Execution analyzer interfaces) :
    execution.records.Perm (execution.performed.filterMap analyzer.recorded?) := by
  rw [← analyzer.filterMap_record?_flatMap_task]
  exact execution.actions_perm.filterMap _

theorem warnings_perm (execution : Execution analyzer interfaces) :
    execution.warnings.Perm (execution.performed.flatMap analyzer.warnings) := by
  rw [← analyzer.filterMap_warning?_flatMap_task]
  exact execution.actions_perm.filterMap _

theorem run_registry (execution : Execution analyzer interfaces) (registry : Registry)
    (received : List Diagnostic) :
    (execution.run registry received).registry = registry.recordAll execution.records := by
  simp only [run, Shared.performAll_eq, records]

theorem run_diagnostics (execution : Execution analyzer interfaces) (registry : Registry)
    (received : List Diagnostic) :
    (execution.run registry received).diagnostics = received ++ execution.warnings := by
  simp only [run, Shared.performAll_eq, warnings]

theorem run_result_of_reported (execution : Execution analyzer interfaces)
    {error : AnalysisError} (reported : execution.reported? = some error)
    (registry : Registry) (received : List Diagnostic) :
    (execution.run registry received).result = .error error := by
  simp only [run, reported]

theorem run_result_of_unreported (execution : Execution analyzer interfaces)
    (unreported : execution.reported? = none) (registry : Registry)
    (received : List Diagnostic) :
    (execution.run registry received).result = .ok {
      seen := interfaces.length
      analysed := (interfaces.filter analyzer.policy).length
      skipped := interfaces.length - (interfaces.filter analyzer.policy).length
      warnings := execution.warnings.length } := by
  simp only [run, unreported, Shared.performAll_eq, warnings, Nat.zero_add]

/-- Tasks that are carried out belong to included interfaces. -/
theorem included_of_mem_performed (execution : Execution analyzer interfaces)
    {interface : Interface} (member : interface ∈ execution.performed) :
    interface ∈ interfaces ∧ analyzer.policy interface = true := by
  rw [← List.mem_filter]
  exact execution.perm_included.mem_iff.1 (List.mem_append_left _ member)

end Execution

end EventFields

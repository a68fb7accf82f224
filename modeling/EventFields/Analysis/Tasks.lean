import EventFields.Analysis

/-!
# Analysis by tasks

Interfaces can be analysed as tasks that run side by side: one task for each
included interface, which infers its fields and then records them.  Tasks share
the registry and the sink for warnings.  What they do to these is done one action
at a time, in any order in which each task keeps its own.  Once a task has
failed, others may be left out, and any of the failures may be the one that is
reported.  The analysis in order is one of these executions: the one that starts
no task after the first failure.
-/

namespace EventFields

/-! ## What tasks share -/

/-- What a task does to what it shares with others, all at once. -/
inductive TaskAction where
  | warn (diagnostic : Diagnostic)
  | record (name : InterfaceName) (fields : FieldMapping)
  deriving DecidableEq

/-- What the tasks of a call share: the registry, and a sink that counts the
warnings it hands on. -/
structure Shared where
  registry : Registry
  /-- All warnings that have been handed on, also in earlier calls. -/
  received : List Diagnostic
  /-- The number of warnings in this call. -/
  warnings : Nat
  deriving DecidableEq

namespace Shared

/-- The state after an action. -/
def perform (shared : Shared) : TaskAction → Shared
  | .warn diagnostic =>
      { shared with
        received := shared.received ++ [diagnostic]
        warnings := shared.warnings + 1 }
  | .record name fields => { shared with registry := shared.registry.record name fields }

/-- The state after actions in the order in which they take effect. -/
def performAll (shared : Shared) (actions : List TaskAction) : Shared :=
  actions.foldl perform shared

end Shared

/-- Lists merged into one: at each turn, any of them gives away its head. -/
inductive Interleaving {α : Type} : List (List α) → List α → Prop
  | done {threads : List (List α)} : (∀ thread ∈ threads, thread = []) → Interleaving threads []
  | step {before after : List (List α)} {head : α} {rest turns : List α} :
      Interleaving (before ++ rest :: after) turns →
      Interleaving (before ++ (head :: rest) :: after) (head :: turns)

namespace Interleaving

variable {α : Type}

theorem cons_nil {threads : List (List α)} {turns : List α}
    (interleaving : Interleaving threads turns) : Interleaving ([] :: threads) turns := by
  induction interleaving with
  | done exhausted => exact .done (by simpa using exhausted)
  | @step before after head rest turns _ ih =>
      exact @step α ([] :: before) after head rest turns ih

/-- A thread may take all its turns first. -/
theorem cons_append {threads : List (List α)} {turns : List α}
    (interleaving : Interleaving threads turns) (thread : List α) :
    Interleaving (thread :: threads) (thread ++ turns) := by
  induction thread with
  | nil => exact interleaving.cons_nil
  | cons head rest ih => exact @step α [] threads head rest (rest ++ turns) ih

/-- Threads may run one after the other. -/
theorem flatten (threads : List (List α)) : Interleaving threads threads.flatten := by
  induction threads with
  | nil => exact .done (by simp)
  | cons thread threads ih => exact ih.cons_append thread

end Interleaving

/-! ## Tasks -/

namespace Analyzer

/-- Why the analysis of an interface fails, if it does. -/
def failure? (analyzer : Analyzer) (interface : Interface) : Option AnalysisError :=
  match (analyzer.engine.infer interface).result with
  | .error cause => some (.explicitFields interface.qualifiedName cause)
  | .ok _ => none

/-- What the task of an interface does: the warnings come first, and nothing is
recorded if inference fails. -/
def task (analyzer : Analyzer) (interface : Interface) : List TaskAction :=
  let run := analyzer.engine.infer interface
  run.diagnostics.map .warn ++
    match run.result with
    | .error _ => []
    | .ok fields => [.record interface.qualifiedName fields]

/-- Interfaces up to the first one that fails, which is the last one kept. -/
def throughFailure (analyzer : Analyzer) : List Interface → List Interface
  | [] => []
  | interface :: rest =>
      if (analyzer.failure? interface).isSome then [interface]
      else interface :: analyzer.throughFailure rest

/-- Interfaces after the first one that fails. -/
def afterFailure (analyzer : Analyzer) : List Interface → List Interface
  | [] => []
  | interface :: rest =>
      if (analyzer.failure? interface).isSome then rest else analyzer.afterFailure rest

theorem throughFailure_append_afterFailure (analyzer : Analyzer)
    (interfaces : List Interface) :
    analyzer.throughFailure interfaces ++ analyzer.afterFailure interfaces = interfaces := by
  induction interfaces with
  | nil => rfl
  | cons interface rest ih =>
      simp only [throughFailure, afterFailure]
      split
      · rfl
      · exact congrArg (interface :: ·) ih

/-- Something is left out only after a failure. -/
theorem exists_failure_of_afterFailure_ne_nil (analyzer : Analyzer)
    {interfaces : List Interface} (omits : analyzer.afterFailure interfaces ≠ []) :
    ∃ interface ∈ analyzer.throughFailure interfaces,
      (analyzer.failure? interface).isSome := by
  induction interfaces with
  | nil => exact absurd rfl omits
  | cons interface rest ih =>
      simp only [throughFailure, afterFailure] at *
      split at omits
      · next failed => exact ⟨interface, by simp [failed], failed⟩
      · next passed =>
          obtain ⟨failing, member, failed⟩ := ih omits
          exact ⟨failing, by simp [passed, member], failed⟩

end Analyzer

/-! ## Executions -/

/-- A way in which the tasks of an analysis are carried out. -/
structure Execution (analyzer : Analyzer) (interfaces : List Interface) where
  /-- The tasks that are carried out. -/
  performed : List Interface
  /-- The tasks that are left out. -/
  omitted : List Interface
  perm_included : (performed ++ omitted).Perm (interfaces.filter analyzer.policy)
  fails_of_omits : omitted ≠ [] →
    ∃ interface ∈ performed, (analyzer.failure? interface).isSome
  /-- The actions of the tasks, in the order in which they take effect. -/
  actions : List TaskAction
  interleaving : Interleaving (performed.map analyzer.task) actions
  /-- The failure that is reported. -/
  reported? : Option AnalysisError
  fails_of_reported : ∀ error, reported? = some error →
    ∃ interface ∈ performed, analyzer.failure? interface = some error
  isSome_reported : ∀ interface ∈ performed,
    (analyzer.failure? interface).isSome → reported?.isSome

namespace Execution

variable {analyzer : Analyzer} {interfaces : List Interface}

/-- What an execution leaves behind for a sink that has already received some
warnings.  The registry is lent to the tasks, and handed back also if there is a
failure to report. -/
def run (execution : Execution analyzer interfaces) (registry : Registry)
    (received : List Diagnostic) : AnalysisRun :=
  let shared := Shared.performAll ⟨registry, received, 0⟩ execution.actions
  let analysed := (interfaces.filter analyzer.policy).length
  { registry := shared.registry
    diagnostics := shared.received
    result :=
      match execution.reported? with
      | some error => .error error
      | none => .ok {
          seen := interfaces.length
          analysed
          skipped := interfaces.length - analysed
          warnings := shared.warnings } }

/-- The execution that carries out tasks one after the other, and reports the
first failure. -/
def oneByOne (analyzer : Analyzer) (interfaces performed omitted : List Interface)
    (perm_included : (performed ++ omitted).Perm (interfaces.filter analyzer.policy))
    (fails_of_omits : omitted ≠ [] →
      ∃ interface ∈ performed, (analyzer.failure? interface).isSome) :
    Execution analyzer interfaces where
  performed := performed
  omitted := omitted
  perm_included := perm_included
  fails_of_omits := fails_of_omits
  actions := performed.flatMap analyzer.task
  interleaving := by
    rw [List.flatMap_def]
    exact Interleaving.flatten _
  reported? := performed.findSome? analyzer.failure?
  fails_of_reported := fun _ => List.exists_of_findSome?_eq_some
  isSome_reported := fun interface member failed =>
    List.findSome?_isSome_iff.2 ⟨interface, member, failed⟩

/-- The execution that takes the interfaces in order and stops at the first failure. -/
def inOrder (analyzer : Analyzer) (interfaces : List Interface) :
    Execution analyzer interfaces :=
  oneByOne analyzer interfaces
    (analyzer.throughFailure (interfaces.filter analyzer.policy))
    (analyzer.afterFailure (interfaces.filter analyzer.policy))
    (.of_eq (analyzer.throughFailure_append_afterFailure _))
    analyzer.exists_failure_of_afterFailure_ne_nil

end Execution

end EventFields

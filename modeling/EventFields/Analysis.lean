import EventFields.Catalog
import EventFields.Inference

/-!
# Analysis of many interfaces

An analysis infers the fields of the interfaces that its policy includes and
records them. It stops at the first interface whose explicit field lists are
bad; what has been recorded and warned of before stays.
-/

namespace EventFields

/-- Why an analysis stops. -/
inductive AnalysisError where
  /-- An explicit field list of the interface is bad. -/
  | explicitFields (interface : InterfaceName) (cause : ValidationError)
  deriving Repr, DecidableEq

namespace AnalysisError

/-- The wording of an error. -/
def message : AnalysisError → String
  | explicitFields interface _ => "invalid explicit fields on " ++ interface.text

end AnalysisError

/-- The settings of an analysis. -/
structure AnalysisSettings where
  /-- The annotation that carries explicit field lists, if there is one. -/
  overrideType : Option String := none
  /-- Whether interfaces are analysed as tasks that may run side by side. -/
  parallel : Bool := false
  deriving Repr, DecidableEq

namespace AnalysisSettings

/-- The settings with an override annotation. An empty name turns overrides off. -/
def withOverrideType (settings : AnalysisSettings) (name : String) :
    AnalysisSettings :=
  { settings with overrideType := if name = "" then none else some name }

/-- The settings with tasks that may run side by side, or not. -/
def withParallel (settings : AnalysisSettings) (parallel : Bool) : AnalysisSettings :=
  { settings with parallel }

end AnalysisSettings

/-- Decides which interfaces are analysed. -/
abbrev InclusionPolicy := Interface → Bool

/-- The policy that includes every interface. -/
def InclusionPolicy.all : InclusionPolicy := fun _ => true

/-- What an analysis did, in numbers. -/
structure AnalysisStats where
  seen : Nat
  analysed : Nat
  skipped : Nat
  warnings : Nat
  deriving Repr, DecidableEq

namespace AnalysisStats

/-- The log event of a completed analysis. -/
def logEvent (stats : AnalysisStats) : LogEvent where
  level := .info
  message := "analysis complete"
  fields := [("seen", .count stats.seen), ("analysed", .count stats.analysed),
    ("skipped", .count stats.skipped), ("warnings", .count stats.warnings)]

end AnalysisStats

/-- What an analysis leaves behind, also if it fails. -/
structure AnalysisRun where
  registry : Registry
  diagnostics : List Diagnostic
  result : Except AnalysisError AnalysisStats

namespace AnalysisRun

/-- The log of a run: its warnings, and a summary if it was completed. Interfaces that
are passed over and events that are replaced are not logged. -/
def log (run : AnalysisRun) : List LogEvent :=
  run.diagnostics.map (·.logEvent) ++
    match run.result with
    | .ok stats => [stats.logEvent]
    | .error _ => []

end AnalysisRun

/-- An analysis: settings, a policy and a resolver. -/
structure Analyzer where
  settings : AnalysisSettings := {}
  policy : InclusionPolicy := .all
  resolver : Resolver := .parsing

namespace Analyzer

/-- The inference engine of an analysis. -/
def engine (analyzer : Analyzer) : InferenceEngine :=
  .configured analyzer.settings.overrideType analyzer.resolver

/-- The state while tasks are being carried out. -/
structure Progress where
  registry : Registry
  diagnostics : List Diagnostic
  failure? : Option AnalysisError

/-- Infers one interface and records its fields. The first failure is kept. -/
def analyzeOne (analyzer : Analyzer) (progress : Progress) (interface : Interface) :
    Progress :=
  let run := analyzer.engine.infer interface
  let diagnostics := progress.diagnostics ++ run.diagnostics
  match run.result with
  | .error cause =>
      let failure := AnalysisError.explicitFields interface.qualifiedName cause
      { progress with diagnostics, failure? := progress.failure?.or (some failure) }
  | .ok fields =>
      { progress with
        registry := progress.registry.record interface.qualifiedName fields
        diagnostics }

/-- Analyses interfaces in order, up to the first failure. -/
def analyzeAll (analyzer : Analyzer) (progress : Progress) : List Interface → Progress
  | [] => progress
  | interface :: rest =>
      let advanced := analyzer.analyzeOne progress interface
      match advanced.failure? with
      | some _ => advanced
      | none => analyzer.analyzeAll advanced rest

/-- The run that has come to its end with the given progress. -/
def finish (analyzer : Analyzer) (interfaces : List Interface) (progress : Progress) :
    AnalysisRun :=
  let analysed := (interfaces.filter analyzer.policy).length
  { registry := progress.registry
    diagnostics := progress.diagnostics
    result :=
      match progress.failure? with
      | some error => .error error
      | none => .ok {
          seen := interfaces.length
          analysed
          skipped := interfaces.length - analysed
          warnings := progress.diagnostics.length } }

/-- Analyses the included interfaces in order and records them in a registry.
Tasks that may run side by side are carried out in this order too. -/
def analyzeInto (analyzer : Analyzer) (interfaces : List Interface) (registry : Registry) :
    AnalysisRun :=
  analyzer.finish interfaces
    (analyzer.analyzeAll ⟨registry, [], none⟩ (interfaces.filter analyzer.policy))

/-- Analyses a model on its own. -/
def run (analyzer : Analyzer) (model : SourceModel) : AnalysisRun :=
  analyzer.analyzeInto model.interfaces .empty

/-- The catalog of a completed run. -/
def catalog (analyzer : Analyzer) (model : SourceModel) : Except AnalysisError Catalog :=
  let run := analyzer.run model
  run.result.map fun _ => run.registry.catalog

end Analyzer

end EventFields

import EventFields.Interface.Json
import EventFields.Report
import EventFields.Selection
import EventFields.Settings.Basic

/-!
# Commands

The command `analyze` prints the catalog of a model, and `explain` prints the
verdicts on one of its interfaces. A command works on the contents of files; it
prints all of its report or nothing.
-/

namespace EventFields

/-- What is read from files: the content of a path, if there is a file. -/
abbrev Files := String → Option String

/-- Why a command fails. -/
inductive CommandError where
  /-- A pattern is not valid. -/
  | badSelection (cause : SelectionError)
  /-- There is no model file. -/
  | missingModel (path : String)
  /-- The model file does not hold a model. -/
  | badModel (path : String) (cause : Json.ReadError)
  /-- The analysis stopped. -/
  | stoppedAnalysis (cause : AnalysisError)
  /-- There were warnings, and none are allowed. -/
  | deniedWarnings (count : Nat)
  /-- The model has no interface of this name. -/
  | unknownInterface (name : String)
  /-- The explicit field lists of the interface to explain are bad. -/
  | badFieldList (interface : InterfaceName) (cause : ValidationError)
  deriving Repr, DecidableEq

/-- One of the causes of a failure, from the outermost to the innermost. -/
inductive Cause where
  /-- What was going on. -/
  | context (message : String)
  | pattern (fault : Pattern.Fault)
  | missingFile
  | malformedJson
  | badData (error : Json.DataError)
  | analysis (error : AnalysisError)
  | validation (error : ValidationError)
  | type (error : TypeError)
  deriving Repr, DecidableEq

namespace Cause

/-- The wording of a file that is not there. -/
def missingFileMessage : String := "No such file or directory (os error 2)"

/-- The wording of a cause. -/
def message : Cause → String
  | context message => message
  | pattern fault => fault.message
  | missingFile => missingFileMessage
  | malformedJson => "malformed JSON"
  | badData error => error.message
  | analysis error => error.message
  | validation error => error.message
  | type error => error.message

/-- The causes of an error in a field list. -/
def ofValidation (error : ValidationError) : List Cause :=
  match error with
  | .unresolvedType _ cause => [validation error, type cause]
  | _ => [validation error]

/-- The cause of an error in a model file. -/
def ofReadError : Json.ReadError → Cause
  | .malformed => malformedJson
  | .data error => badData error

end Cause

namespace CommandError

/-- The wording of an error. -/
def message : CommandError → String
  | badSelection cause => cause.message
  | missingModel path => "failed to read model file " ++ path
  | badModel path _ => "failed to parse model file " ++ path
  | stoppedAnalysis _ => "analysis failed"
  | deniedWarnings count =>
      toString count ++ " warning(s) raised while --deny-warnings is set"
  | unknownInterface name => "interface not found: " ++ name
  | badFieldList interface _ => "invalid explicit fields on " ++ interface.text

/-- The causes of an error, starting with its own wording. -/
def causes (error : CommandError) : List Cause :=
  .context error.message ::
    match error with
    | badSelection (.invalidInclude fault) => [.pattern fault]
    | badSelection (.invalidExclude fault) => [.pattern fault]
    | missingModel _ => [.missingFile]
    | badModel _ cause => [.ofReadError cause]
    | stoppedAnalysis cause =>
        match cause with
        | .explicitFields _ inner => .analysis cause :: Cause.ofValidation inner
    | badFieldList _ cause => Cause.ofValidation cause
    | deniedWarnings _ | unknownInterface _ => []

end CommandError

/-- What a command leaves behind. -/
structure CommandRun where
  output : String := ""
  log : List LogEvent := []
  error? : Option CommandError := none

/-- A command that fails before it has done anything. -/
def CommandRun.failed (error : CommandError) : CommandRun where
  error? := some error

/-- What can be asked of `analyze`. -/
structure AnalyzeRequest where
  model : String
  json : Bool := false
  denyWarnings : Bool := false
  parallel : Bool := false
  toInclude : List String := []
  toExclude : List String := []
  overrideType? : Option String := none
  deriving Repr, DecidableEq

/-- What can be asked of `explain`. -/
structure ExplainRequest where
  model : String
  interface : String
  overrideType? : Option String := none
  deriving Repr, DecidableEq

/-- The settings with what a request adds or puts in their place. -/
def AnalyzeRequest.effective (request : AnalyzeRequest) (settings : Settings) : Settings where
  overrideType := request.overrideType?.getD settings.overrideType
  toInclude := settings.toInclude ++ request.toInclude
  toExclude := settings.toExclude ++ request.toExclude
  parallel := settings.parallel || request.parallel

/-- Reads the model in a file. -/
def loadModel (files : Files) (path : String) : Except CommandError SourceModel :=
  match files path with
  | none => .error (.missingModel path)
  | some text =>
      match SourceModel.ofText text with
      | .ok model => .ok model
      | .error cause => .error (.badModel path cause)

/-- The analyzer that a request asks for, with its patterns read. -/
def AnalyzeRequest.analyzer (request : AnalyzeRequest) (settings : Settings)
    (selection : Selection) : Analyzer where
  settings := (request.effective settings).analysis
  policy := selection.includes

/-- Runs the analysis of a model in a given way. The patterns are looked at before the
model file. -/
def AnalyzeRequest.analyzeBy (carryOut : Analyzer → SourceModel → AnalysisRun)
    (request : AnalyzeRequest) (files : Files) (settings : Settings) :
    Except CommandError AnalysisRun :=
  let effective := request.effective settings
  match Selection.parse effective.toInclude effective.toExclude with
  | .error cause => .error (.badSelection cause)
  | .ok selection =>
      match loadModel files request.model with
      | .error error => .error error
      | .ok model => .ok (carryOut (request.analyzer settings selection) model)

/-- Runs the analysis of a model. -/
def AnalyzeRequest.analyze (request : AnalyzeRequest) (files : Files) (settings : Settings) :
    Except CommandError AnalysisRun :=
  request.analyzeBy Analyzer.run files settings

/-- Reports on a completed analysis. -/
def AnalyzeRequest.report (request : AnalyzeRequest) (run : AnalysisRun) : CommandRun :=
  let catalog := run.registry.catalog
  let warnings := run.diagnostics.length
  { output := if request.json then catalog.jsonReport else catalog.textReport warnings
    log := run.log
    error? :=
      if request.denyWarnings && warnings ≠ 0 then some (.deniedWarnings warnings) else none }

/-- Reports on an analysis, unless it has stopped. -/
def AnalyzeRequest.conclude (request : AnalyzeRequest) (run : AnalysisRun) : CommandRun :=
  match run.result with
  | .error cause => { log := run.log, error? := some (.stoppedAnalysis cause) }
  | .ok _ => request.report run

/-- Analyses a model in a given way and reports on it. -/
def AnalyzeRequest.performBy (carryOut : Analyzer → SourceModel → AnalysisRun)
    (request : AnalyzeRequest) (files : Files) (settings : Settings) : CommandRun :=
  match request.analyzeBy carryOut files settings with
  | .error error => .failed error
  | .ok run => request.conclude run

/-- Analyses a model and reports on it. -/
def AnalyzeRequest.perform (request : AnalyzeRequest) (files : Files) (settings : Settings) :
    CommandRun :=
  request.performBy Analyzer.run files settings

/-- The inference engine of an explanation. -/
def ExplainRequest.engine (request : ExplainRequest) (settings : Settings) : InferenceEngine :=
  .configured (some (request.overrideType?.getD settings.overrideType)) .parsing

/-- The interface to explain: the first one of the model that has the name. -/
def ExplainRequest.subject (request : ExplainRequest) (files : Files) :
    Except CommandError Interface :=
  match loadModel files request.model with
  | .error error => .error error
  | .ok model =>
      match model.interfaces.find? (·.qualifiedName.text = request.interface) with
      | none => .error (.unknownInterface request.interface)
      | some interface => .ok interface

/-- Explains an interface of a model. -/
def ExplainRequest.perform (request : ExplainRequest) (files : Files) (settings : Settings) :
    CommandRun :=
  match request.subject files with
  | .error error => .failed error
  | .ok interface =>
      let run := (request.engine settings).infer interface
      let log := run.diagnostics.map (·.logEvent)
      match run.result with
      | .error cause => { log, error? := some (.badFieldList interface.qualifiedName cause) }
      | .ok _ => { log, output := run.report interface }

end EventFields

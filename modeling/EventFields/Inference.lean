import EventFields.Accessor
import EventFields.Diagnostic
import EventFields.FieldList

/-!
# Inference of fields

The fields of an interface come from three places. An override annotation on
the interface replaces everything else. An override annotation on a method
writes its fields over what is there. All other methods are taken as accessors:
the first type seen for a name is kept, and later disagreements are warned of.

A run keeps its events, which are warnings and verdicts, in the order in which
they occur; they are there even if the run fails.
-/

namespace EventFields

/-- What inference decided about a method, or about the interface as a whole. -/
inductive Verdict where
  /-- The list on the interface itself, which is the whole mapping. -/
  | explicit (tag : Annotation) (fields : FieldMapping)
  /-- A method that is not looked at because the interface has a list. -/
  | skipped (method : Method)
  /-- A method whose list has been written into the mapping. -/
  | overridden (method : Method) (fields : FieldMapping)
  /-- An accessor, with what became of its field. -/
  | inferred (method : Method) (field : ImpliedField) (outcome : FieldMapping.Outcome)
  /-- A method that implies no field. -/
  | unknown (method : Method)
  deriving DecidableEq

/-- Something that occurs during inference. -/
inductive InferenceEvent where
  | warned (diagnostic : Diagnostic)
  | decided (verdict : Verdict)
  deriving DecidableEq

namespace InferenceEvent

/-- The warning that an event is, if it is one. -/
def diagnostic? : InferenceEvent → Option Diagnostic
  | warned diagnostic => some diagnostic
  | decided _ => none

/-- The verdict that an event is, if it is one. -/
def verdict? : InferenceEvent → Option Verdict
  | warned _ => none
  | decided verdict => some verdict

end InferenceEvent

/-- A run of inference on one interface. -/
structure InferenceRun where
  events : List InferenceEvent
  result : Except ValidationError FieldMapping

namespace InferenceRun

/-- The warnings of a run, in order. -/
def diagnostics (run : InferenceRun) : List Diagnostic :=
  run.events.filterMap (·.diagnostic?)

/-- The verdicts of a run, in order. -/
def verdicts (run : InferenceRun) : List Verdict :=
  run.events.filterMap (·.verdict?)

/-- The verdicts among events, each with the number of warnings before it. -/
def countWarnings (warnings : Nat) : List InferenceEvent → List (Verdict × Nat)
  | [] => []
  | .warned _ :: rest => countWarnings (warnings + 1) rest
  | .decided verdict :: rest => (verdict, warnings) :: countWarnings warnings rest

/-- The verdicts of a run, each with the number of warnings raised before it. -/
def timedVerdicts (run : InferenceRun) : List (Verdict × Nat) :=
  countWarnings 0 run.events

/-- A run with events that occurred before it. -/
def after (events : List InferenceEvent) (run : InferenceRun) : InferenceRun :=
  { run with events := events ++ run.events }

end InferenceRun

/-- What inference depends on besides the interface. -/
structure InferenceEngine where
  /-- The annotation that carries explicit field lists, if there is one. -/
  overrideType : Option String
  resolver : Resolver

namespace InferenceEngine

/-- An engine for an override annotation. An empty name turns overrides off. -/
def configured (overrideType : Option String) (resolver : Resolver) :
    InferenceEngine where
  overrideType := overrideType.filter (· ≠ "")
  resolver := resolver

/-- The first override annotation among the given ones. -/
def overrideOn? (engine : InferenceEngine) (annotations : List Annotation) :
    Option Annotation :=
  match engine.overrideType with
  | none => none
  | some wanted => annotations.find? (·.typeName = wanted)

/-- What one method contributes: the events it causes, and the mapping after it. -/
structure Contribution where
  events : List InferenceEvent
  fields : FieldMapping

/-- The contribution of an accessor. -/
def contributeField (interface : InterfaceName) (fields : FieldMapping) (method : Method)
    (field : ImpliedField) : Contribution :=
  let (outcome, inferred) := fields.insertInferred field.name field.type
  let warning :=
    match outcome with
    | .conflict existing =>
        [.warned (.conflictingTypes interface field.name existing field.type)]
    | _ => []
  ⟨warning ++ [.decided (.inferred method field outcome)], inferred⟩

/-- The contribution of a method to the mapping of its interface. -/
def contribute (engine : InferenceEngine) (interface : InterfaceName)
    (fields : FieldMapping) (method : Method) : Except ValidationError Contribution :=
  match engine.overrideOn? method.annotations with
  | some tag =>
      match FieldList.carriedBy engine.resolver tag with
      | .error error => .error error
      | .ok listed =>
          .ok ⟨[.decided (.overridden method listed)], fields.merge listed⟩
  | none =>
      match method.impliedField? with
      | some field => .ok (contributeField interface fields method field)
      | none =>
          .ok ⟨[.warned (.unknownMethod interface method.signature),
            .decided (.unknown method)], fields⟩

/-- Infers from methods in order, starting with a mapping. -/
def inferMethods (engine : InferenceEngine) (interface : InterfaceName)
    (fields : FieldMapping) : List Method → InferenceRun
  | [] => ⟨[], .ok fields⟩
  | method :: rest =>
      match engine.contribute interface fields method with
      | .error error => ⟨[], .error error⟩
      | .ok contribution =>
          (engine.inferMethods interface contribution.fields rest).after contribution.events

/-- Infers the fields of an interface. -/
def infer (engine : InferenceEngine) (interface : Interface) : InferenceRun :=
  match engine.overrideOn? interface.annotations with
  | some tag =>
      match FieldList.carriedBy engine.resolver tag with
      | .error error => ⟨[], .error error⟩
      | .ok fields =>
          ⟨.decided (.explicit tag fields) ::
            interface.methods.map fun method => .decided (.skipped method), .ok fields⟩
  | none => engine.inferMethods interface.qualifiedName .empty interface.methods

end InferenceEngine

end EventFields

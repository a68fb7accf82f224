import EventFields.Proofs.Inference.Failure
import EventFields.Proofs.Inference.Warnings

/-!
# Bad lists

Inference fails only because of a list that it has to read: that of the interface
or, if it has none, those of its methods, up to the first bad one.  At each place
the first override annotation is the one that is read, and others of its type may
as well not be there.
-/

namespace EventFields

namespace Sample

/-- A method whose first list is bad. -/
def misspelt : Method :=
  { lister with annotations := [.bare "Event", listing ["fooInt"], listing ["foo:Int"]] }

def spoiled : Interface := { mixed with methods := [getter, setter, misspelt, mover] }

/-- An interface whose first list is bad. -/
def mislisted : Interface :=
  { spoiled with annotations := [listing ["id"], listing ["id:Long"]] }

end Sample

/-! ## Later annotations of a type -/

/-- Annotations without those of a type that stand behind another one of it. -/
def dropLater (typeName : String) : List Annotation → List Annotation
  | [] => []
  | tag :: rest =>
      if tag.typeName = typeName then tag :: rest.filter (·.typeName ≠ typeName)
      else tag :: dropLater typeName rest

/-- A method without later annotations of a type. -/
def Method.withoutLater (typeName : String) (method : Method) : Method :=
  { method with annotations := dropLater typeName method.annotations }

/-- An interface without later annotations of a type, on itself and on its methods. -/
def Interface.withoutLater (typeName : String) (interface : Interface) : Interface :=
  { interface with
    annotations := dropLater typeName interface.annotations
    methods := interface.methods.map (·.withoutLater typeName) }

/-- A verdict on a method without later annotations of a type. -/
def Verdict.withoutLater (typeName : String) : Verdict → Verdict
  | explicit tag fields => explicit tag fields
  | skipped method => skipped (method.withoutLater typeName)
  | overridden method fields => overridden (method.withoutLater typeName) fields
  | inferred method field outcome => inferred (method.withoutLater typeName) field outcome
  | unknown method => unknown (method.withoutLater typeName)

/-- An event about a method without later annotations of a type. -/
def InferenceEvent.withoutLater (typeName : String) : InferenceEvent → InferenceEvent
  | warned diagnostic => warned diagnostic
  | decided verdict => decided (verdict.withoutLater typeName)

/-- A run on methods without later annotations of a type. -/
def InferenceRun.withoutLater (typeName : String) (run : InferenceRun) : InferenceRun :=
  { run with events := run.events.map (·.withoutLater typeName) }

theorem InferenceRun.diagnostics_withoutLater (typeName : String) (run : InferenceRun) :
    (run.withoutLater typeName).diagnostics = run.diagnostics := by
  rw [diagnostics, withoutLater, List.filterMap_map]
  congr 1
  funext event
  cases event <;> rfl

theorem InferenceRun.verdicts_withoutLater (typeName : String) (run : InferenceRun) :
    (run.withoutLater typeName).verdicts = run.verdicts.map (·.withoutLater typeName) := by
  rw [verdicts, verdicts, withoutLater, List.filterMap_map, List.map_filterMap]
  congr 1
  funext event
  cases event <;> rfl

/-- The first annotation of any type stays. -/
theorem find?_dropLater (wanted typeName : String) (annotations : List Annotation) :
    (dropLater typeName annotations).find? (·.typeName = wanted) =
      annotations.find? (·.typeName = wanted) := by
  induction annotations with
  | nil => rfl
  | cons tag rest ih =>
      simp only [dropLater]
      by_cases isWanted : tag.typeName = wanted
      · split <;> simp [isWanted]
      · by_cases dropped : tag.typeName = typeName
        · have kept : (rest.filter (·.typeName ≠ typeName)).find? (·.typeName = wanted) =
              rest.find? (·.typeName = wanted) := by
            rw [List.find?_filter]
            congr 1
            funext other
            by_cases otherWanted : other.typeName = wanted
            · have differ : other.typeName ≠ typeName := by
                rw [otherWanted, ← dropped]
                exact Ne.symm isWanted
              simp [otherWanted, otherWanted ▸ differ]
            · simp [otherWanted]
          simp only [dropped, if_true, List.find?_cons, kept]
        · simp only [dropped, if_false, List.find?_cons, ih]

namespace InferenceEngine

variable {engine : InferenceEngine}

theorem overrideOn?_dropLater (engine : InferenceEngine) (typeName : String)
    (annotations : List Annotation) :
    engine.overrideOn? (dropLater typeName annotations) = engine.overrideOn? annotations := by
  simp only [overrideOn?]
  cases engine.overrideType with
  | none => rfl
  | some wanted => exact find?_dropLater wanted typeName annotations

theorem contribute_withoutLater (engine : InferenceEngine) (typeName : String)
    (interface : InterfaceName) (fields : FieldMapping) (method : Method) :
    engine.contribute interface fields (method.withoutLater typeName) =
      (engine.contribute interface fields method).map fun contribution =>
        ⟨contribution.events.map (·.withoutLater typeName), contribution.fields⟩ := by
  have overridden : engine.overrideOn? (method.withoutLater typeName).annotations =
      engine.overrideOn? method.annotations :=
    engine.overrideOn?_dropLater typeName method.annotations
  have implied : (method.withoutLater typeName).impliedField? = method.impliedField? := rfl
  have signed : (method.withoutLater typeName).signature = method.signature := rfl
  simp only [contribute, overridden, implied, signed]
  cases engine.overrideOn? method.annotations with
  | some tag =>
      simp only
      cases FieldList.carriedBy engine.resolver tag <;> rfl
  | none =>
      cases method.impliedField? with
      | none => rfl
      | some field =>
          simp only [contributeField_eq]
          cases fields.outcome field <;> rfl

theorem inferMethods_withoutLater (engine : InferenceEngine) (typeName : String)
    (interface : InterfaceName) (fields : FieldMapping) (methods : List Method) :
    engine.inferMethods interface fields (methods.map (·.withoutLater typeName)) =
      (engine.inferMethods interface fields methods).withoutLater typeName := by
  induction methods generalizing fields with
  | nil => rfl
  | cons method rest ih =>
      simp only [List.map_cons, inferMethods, contribute_withoutLater]
      cases engine.contribute interface fields method with
      | error error => rfl
      | ok contribution =>
          simp only [Except.map, ih]
          simp [InferenceRun.after, InferenceRun.withoutLater]

/-- Later annotations of a type do not matter to a run. -/
theorem infer_withoutLater (engine : InferenceEngine) (typeName : String)
    (interface : Interface) :
    engine.infer (interface.withoutLater typeName) =
      (engine.infer interface).withoutLater typeName := by
  have overridden : engine.overrideOn? (interface.withoutLater typeName).annotations =
      engine.overrideOn? interface.annotations :=
    engine.overrideOn?_dropLater typeName interface.annotations
  simp only [infer, overridden]
  cases engine.overrideOn? interface.annotations with
  | none => exact engine.inferMethods_withoutLater typeName _ _ _
  | some tag =>
      simp only
      cases FieldList.carriedBy engine.resolver tag with
      | error error => rfl
      | ok fields =>
          simp [Interface.withoutLater, InferenceRun.withoutLater, InferenceEvent.withoutLater,
            Verdict.withoutLater, Function.comp_def]

/-! ## Which lists fail -/

/-- The first override annotation of a place carries a bad list. -/
def BadList (engine : InferenceEngine) (annotations : List Annotation)
    (error : ValidationError) : Prop :=
  ∃ tag, engine.FirstOverride annotations tag ∧
    FieldList.carriedBy engine.resolver tag = .error error

theorem fails_iff_badList {method : Method} {error : ValidationError} :
    engine.Fails method error ↔ engine.BadList method.annotations error := by
  simp only [Fails, BadList, overrideOn?_eq_some_iff]

theorem overrideOn?_eq_none_of_disabled {overrideType : Option String}
    (disabled : overrideType = none ∨ overrideType = some "") (resolver : Resolver)
    (annotations : List Annotation) :
    (configured overrideType resolver).overrideOn? annotations = none := by
  rcases disabled with rfl | rfl
  · rfl
  · simp [configured, overrideOn?, Option.filter_some]

/-- A run over methods without a bad list succeeds. -/
theorem exists_ok_of_good {methods : List Method}
    (good : ∀ method ∈ methods, ∀ error, ¬ engine.Fails method error)
    (interface : InterfaceName) (fields : FieldMapping) :
    ∃ final, (engine.inferMethods interface fields methods).result = .ok final := by
  cases ended : (engine.inferMethods interface fields methods).result with
  | ok final => exact ⟨final, rfl⟩
  | error error =>
      obtain ⟨passed, method, later, rfl, -, fails⟩ := exists_fails_of_result ended
      exact absurd fails (good method (by simp) error)

/-- A run over methods with a bad list fails. -/
theorem Fails.exists_error {methods : List Method} {method : Method} {error : ValidationError}
    (fails : engine.Fails method error) (member : method ∈ methods) (interface : InterfaceName)
    (fields : FieldMapping) :
    ∃ cause, (engine.inferMethods interface fields methods).result = .error cause := by
  induction methods generalizing fields with
  | nil => cases member
  | cons first rest ih =>
      rcases engine.contribute_cases interface fields first with
        ⟨cause, -, contributed⟩ | ⟨verdict, -, contributed⟩
      · exact ⟨cause, by simp only [inferMethods, contributed]⟩
      · rcases List.mem_cons.1 member with rfl | member
        · have refused := fails.contribute_eq interface fields
          rw [contributed] at refused
          cases refused
        · obtain ⟨cause, failed⟩ := ih member (verdict.replayOn fields)
          exact ⟨cause, by simp only [inferMethods, contributed, InferenceRun.after, failed]⟩

theorem exists_infer_error_iff_of_unlisted {interface : Interface}
    (unlisted : engine.overrideOn? interface.annotations = none) :
    (∃ error, (engine.infer interface).result = .error error) ↔
      ∃ method ∈ interface.methods, ∃ error, engine.BadList method.annotations error := by
  rw [infer_eq_inferMethods unlisted]
  constructor
  · rintro ⟨error, failed⟩
    obtain ⟨passed, method, later, split, -, fails⟩ := exists_fails_of_result failed
    exact ⟨method, by simp [split], error, fails_iff_badList.1 fails⟩
  · rintro ⟨method, member, error, bad⟩
    exact (fails_iff_badList.2 bad).exists_error member _ _

/-- An interface with a bad list causes no event. -/
theorem infer_events_of_bad {interface : Interface} {tag : Annotation} {error : ValidationError}
    (overridden : engine.overrideOn? interface.annotations = some tag)
    (bad : FieldList.carriedBy engine.resolver tag = .error error) :
    (engine.infer interface).events = [] := by
  simp only [infer, overridden, bad]

/-- Up to the first bad list, a run has a verdict for each method and the warnings
that are due for them. -/
theorem infer_of_firstBad {interface : Interface} {passed later : List Method}
    {method : Method} {error : ValidationError}
    (unlisted : engine.overrideOn? interface.annotations = none)
    (split : interface.methods = passed ++ method :: later)
    (good : ∀ earlier ∈ passed, ∀ cause, ¬ engine.Fails earlier cause)
    (fails : engine.Fails method error) :
    (engine.infer interface).result = .error error ∧
      (engine.infer interface).verdicts.map Verdict.method? = passed.map some ∧
      (engine.infer interface).diagnostics =
        engine.dueWarnings interface.qualifiedName passed := by
  obtain ⟨final, succeeds⟩ := exists_ok_of_good good interface.qualifiedName .empty
  obtain ⟨verdicts, steps, events⟩ := steps_of_result succeeds
  rw [infer_eq_inferMethods unlisted, split, fails.inferMethods_eq good, events]
  refine ⟨rfl, ?_, ?_⟩
  · rw [InferenceRun.verdicts, Verdict.filterMap_verdict?_flatMap, steps.map_method?]
  · rw [InferenceRun.diagnostics, Verdict.filterMap_diagnostic?_flatMap, steps.diagnostics_eq]

/-- Inference fails exactly if a list that it has to read is bad, and tells of the
first such list.

* With overrides turned off it never fails.
* An interface with an override annotation fails exactly with the error of its
  first one, whatever its methods carry, and then there is no verdict and no
  warning.
* Any other interface fails exactly if the list of one of its methods is bad.  The
  error is that of the first such method; there is one verdict for each method
  before it, and the warnings are those that are due for these.
* Without later override annotations, on the interface and on its methods, the run
  is the same. -/
theorem infer_failure (engine : InferenceEngine) (interface : Interface) :
    (∀ overrideType resolver, overrideType = none ∨ overrideType = some "" →
      ∃ fields, ((configured overrideType resolver).infer interface).result = .ok fields) ∧
    (∀ tag, engine.FirstOverride interface.annotations tag → ∀ error,
      ((engine.infer interface).result = .error error ↔
        FieldList.carriedBy engine.resolver tag = .error error) ∧
      (FieldList.carriedBy engine.resolver tag = .error error →
        (engine.infer interface).verdicts = [] ∧ (engine.infer interface).diagnostics = [])) ∧
    ((∀ tag ∈ interface.annotations, engine.overrideType ≠ some tag.typeName) →
      ((∃ error, (engine.infer interface).result = .error error) ↔
        ∃ method ∈ interface.methods, ∃ error, engine.BadList method.annotations error) ∧
      ∀ passed method later error, interface.methods = passed ++ method :: later →
        (∀ earlier ∈ passed, ∀ cause, ¬ engine.BadList earlier.annotations cause) →
        engine.BadList method.annotations error →
        (engine.infer interface).result = .error error ∧
        (engine.infer interface).verdicts.map Verdict.method? = passed.map some ∧
        (engine.infer interface).diagnostics =
          engine.dueWarnings interface.qualifiedName passed) ∧
    ∀ typeName,
      (engine.infer (interface.withoutLater typeName)).result =
        (engine.infer interface).result ∧
      (engine.infer (interface.withoutLater typeName)).diagnostics =
        (engine.infer interface).diagnostics ∧
      (engine.infer (interface.withoutLater typeName)).verdicts =
        (engine.infer interface).verdicts.map (·.withoutLater typeName) := by
  refine ⟨?disabled, ?listed, ?unlisted, ?later⟩
  case disabled =>
    intro overrideType resolver disabled
    rw [infer_eq_inferMethods (overrideOn?_eq_none_of_disabled disabled resolver _)]
    apply exists_ok_of_good
    rintro method - error ⟨tag, overridden, -⟩
    rw [overrideOn?_eq_none_of_disabled disabled] at overridden
    cases overridden
  case listed =>
    intro tag first error
    have overridden := overrideOn?_eq_some_iff.2 first
    constructor
    · rw [infer_result_of_override overridden]
    · intro bad
      have silent := infer_events_of_bad overridden bad
      simp [InferenceRun.verdicts, InferenceRun.diagnostics, silent]
  case unlisted =>
    intro unlisted
    have unlisted := overrideOn?_eq_none_iff.2 unlisted
    refine ⟨exists_infer_error_iff_of_unlisted unlisted, ?_⟩
    intro passed method later error split good bad
    simp only [← fails_iff_badList] at good bad
    exact infer_of_firstBad unlisted split good bad
  case later =>
    intro typeName
    rw [infer_withoutLater]
    exact ⟨rfl, InferenceRun.diagnostics_withoutLater _ _,
      InferenceRun.verdicts_withoutLater _ _⟩

/-- In the sample the good list behind the bad one does not help, and the conflict
in front of it has been warned of.  Turned off, no list does harm. -/
theorem infer_failure_sample :
    (∃ fields, ((configured (some "") Sample.engine.resolver).infer Sample.spoiled).result =
      .ok fields) ∧
    (Sample.engine.infer Sample.mislisted).result = .error (.malformedEntry "id") ∧
    (Sample.engine.infer Sample.mislisted).verdicts = [] ∧
    (∃ error, (Sample.engine.infer Sample.spoiled).result = .error error) ∧
    (Sample.engine.infer Sample.spoiled).result = .error (.malformedEntry "fooInt") ∧
    (Sample.engine.infer Sample.spoiled).diagnostics =
      [.conflictingTypes Sample.spoiled.qualifiedName Sample.foo (.plain "Int")
        (.plain "Long")] := by
  obtain ⟨disabled, -, unlisted, -⟩ := infer_failure Sample.engine Sample.spoiled
  obtain ⟨-, listed, -⟩ := infer_failure Sample.engine Sample.mislisted
  have bad : Sample.engine.BadList Sample.misspelt.annotations (.malformedEntry "fooInt") := by
    refine ⟨Sample.listing ["fooInt"], ⟨rfl, [.bare "Event"], _, rfl, by decide⟩, ?_⟩
    decide +kernel
  have good : ∀ earlier ∈ [Sample.getter, Sample.setter], ∀ cause,
      ¬ Sample.engine.BadList earlier.annotations cause := by
    simp [BadList, FirstOverride, Sample.getter, Sample.setter]
  have carried : FieldList.carriedBy Sample.engine.resolver (Sample.listing ["id"]) =
      .error (.malformedEntry "id") := by decide +kernel
  obtain ⟨listedFails, silent⟩ := listed (Sample.listing ["id"])
    ⟨rfl, [], [Sample.listing ["id:Long"]], rfl, by simp⟩ (.malformedEntry "id")
  obtain ⟨fails, atFirst⟩ := unlisted (by simp [Sample.spoiled, Sample.mixed])
  obtain ⟨failed, -, warned⟩ := atFirst [Sample.getter, Sample.setter] Sample.misspelt
    [Sample.mover] _ rfl good bad
  refine ⟨disabled _ _ (.inr rfl), listedFails.2 carried, (silent carried).1,
    fails.2 ⟨Sample.misspelt, by simp [Sample.spoiled], _, bad⟩, failed, ?_⟩
  rw [warned]
  decide +kernel

end InferenceEngine

end EventFields

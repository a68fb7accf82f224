import EventFields.Proofs.Inference.Steps

/-!
# Where inference fails

Inference fails at the first bad list that it has to read.  On an interface with
a list of its own this is that list, and no method is looked at.  On any other
interface it is the list of the first method with a bad one, and what the methods
before it have caused stays.
-/

namespace EventFields.InferenceEngine

variable {engine : InferenceEngine}

/-- Inference of an interface fails after it has got through some of its methods. -/
inductive FailsAfter (engine : InferenceEngine) (interface : Interface)
    (error : ValidationError) : List Method → Prop
  /-- The interface has a bad list itself. -/
  | own {tag : Annotation} : engine.overrideOn? interface.annotations = some tag →
      FieldList.carriedBy engine.resolver tag = .error error →
      FailsAfter engine interface error []
  /-- The interface has no list, and one of its methods is the first with a bad one. -/
  | method {passed later : List Method} {method : Method} :
      engine.overrideOn? interface.annotations = none →
      interface.methods = passed ++ method :: later →
      (∀ earlier ∈ passed, ∀ cause, ¬ engine.Fails earlier cause) →
      engine.Fails method error → FailsAfter engine interface error passed

/-! ## Methods -/

theorem Fails.contribute_eq {method : Method} {error : ValidationError}
    (fails : engine.Fails method error) (interface : InterfaceName) (fields : FieldMapping) :
    engine.contribute interface fields method = .error error := by
  obtain ⟨tag, overridden, carried⟩ := fails
  simp only [contribute, overridden, carried]

/-- A run over methods stops at the first one with a bad list. -/
theorem Fails.inferMethods_eq {passed later : List Method} {method : Method}
    {error : ValidationError} (fails : engine.Fails method error)
    (good : ∀ earlier ∈ passed, ∀ cause, ¬ engine.Fails earlier cause)
    (interface : InterfaceName) (fields : FieldMapping) :
    engine.inferMethods interface fields (passed ++ method :: later) =
      ⟨(engine.inferMethods interface fields passed).events, .error error⟩ := by
  induction passed generalizing fields with
  | nil => simp only [List.nil_append, inferMethods, fails.contribute_eq]
  | cons first passed ih =>
      rcases engine.contribute_cases interface fields first with
        ⟨cause, firstFails, -⟩ | ⟨verdict, -, contributed⟩
      · exact absurd firstFails (good first List.mem_cons_self cause)
      · have goodRest : ∀ earlier ∈ passed, ∀ cause, ¬ engine.Fails earlier cause :=
          fun earlier member => good earlier (List.mem_cons_of_mem first member)
        simp only [List.cons_append, inferMethods, contributed, ih goodRest]
        rfl

/-- A run over methods that fails has a first method with a bad list. -/
theorem exists_fails_of_result {interface : InterfaceName} {fields : FieldMapping}
    {methods : List Method} {error : ValidationError}
    (failed : (engine.inferMethods interface fields methods).result = .error error) :
    ∃ passed method later, methods = passed ++ method :: later ∧
      (∀ earlier ∈ passed, ∀ cause, ¬ engine.Fails earlier cause) ∧
      engine.Fails method error := by
  induction methods generalizing fields with
  | nil => cases failed
  | cons first rest ih =>
      rcases engine.contribute_cases interface fields first with
        ⟨cause, firstFails, contributed⟩ | ⟨verdict, -, contributed⟩
      · simp only [inferMethods, contributed] at failed
        cases failed
        exact ⟨[], first, rest, rfl, by simp, firstFails⟩
      · have firstGood : ∀ cause, ¬ engine.Fails first cause := by
          intro cause firstFails
          have refused := firstFails.contribute_eq interface fields
          rw [contributed] at refused
          cases refused
        simp only [inferMethods, contributed, InferenceRun.after] at failed
        obtain ⟨passed, method, later, rfl, good, fails⟩ := ih failed
        refine ⟨first :: passed, method, later, rfl, ?_, fails⟩
        intro earlier member
        rcases List.mem_cons.1 member with rfl | member
        · exact firstGood
        · exact good earlier member

/-! ## Interfaces -/

theorem infer_result_eq_error_iff {interface : Interface} {error : ValidationError} :
    (engine.infer interface).result = .error error ↔
      ∃ passed, engine.FailsAfter interface error passed := by
  constructor
  · intro failed
    cases overridden : engine.overrideOn? interface.annotations with
    | some tag =>
        rw [infer_result_of_override overridden] at failed
        exact ⟨[], .own overridden failed⟩
    | none =>
        rw [infer_eq_inferMethods overridden] at failed
        obtain ⟨passed, method, later, split, good, fails⟩ := exists_fails_of_result failed
        exact ⟨passed, .method overridden split good fails⟩
  · rintro ⟨passed, failsAfter⟩
    cases failsAfter with
    | own overridden failed => rw [infer_result_of_override overridden, failed]
    | method unlisted split good fails =>
        rw [infer_eq_inferMethods unlisted, split, fails.inferMethods_eq good]

/-- The events of a run that fails are those of the methods that it has got through. -/
theorem FailsAfter.events_eq {interface : Interface} {error : ValidationError}
    {passed : List Method} (failsAfter : engine.FailsAfter interface error passed) :
    (engine.infer interface).events =
      (engine.inferMethods interface.qualifiedName .empty passed).events := by
  cases failsAfter with
  | own overridden failed => simp only [infer, overridden, failed, inferMethods]
  | method unlisted split good fails =>
      rw [infer_eq_inferMethods unlisted, split, fails.inferMethods_eq good]

end EventFields.InferenceEngine

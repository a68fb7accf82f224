import EventFields.Proofs.Inference.Meaning
import EventFields.Proofs.Inference.Trace

/-!
# Which warnings are due

Whether a method is warned of can be told from the methods before it, without
running over them.  A method with a list never is.  Any other method is warned of
if it implies no field, or if the methods before it give its field another type.
What stands behind a method does not matter: a later list neither raises a
warning nor takes one back.
-/

namespace EventFields

/-- The sample without a list, with its first accessor once more at the end. -/
def Sample.repeating : Interface :=
  mixed.withMethod getter

namespace InferenceEngine

variable {engine : InferenceEngine}

/-- The type that methods give to a name: that of the last list that mentions it
or, if there is none, of the first accessor that implies it. -/
def givenType? (engine : InferenceEngine) (methods : List Method) (name : String) :
    Option TypeRef :=
  (engine.lastListed? methods name).or (engine.firstImplied? methods name)

/-- The warning that is due for a method behind others. -/
def dueWarning? (engine : InferenceEngine) (interface : InterfaceName)
    (earlier : List Method) (method : Method) : Option Diagnostic :=
  match engine.overrideOn? method.annotations, method.impliedField? with
  | some _, _ => none
  | none, none => some (.unknownMethod interface method.signature)
  | none, some field =>
      ((engine.givenType? earlier field.name.text).filter (· ≠ field.type)).map
        fun existing => .conflictingTypes interface field.name existing field.type

/-- The warnings that are due for methods, in the order of the methods. -/
def dueWarnings (engine : InferenceEngine) (interface : InterfaceName)
    (methods : List Method) : List Diagnostic :=
  methods.zipIdx.filterMap fun entry =>
    engine.dueWarning? interface (methods.take entry.2) entry.1

/-! ## One method -/

theorem diagnostic?_inferred (fields : FieldMapping) (field : ImpliedField)
    (interface : InterfaceName) (method : Method) :
    (Verdict.inferred method field (fields.outcome field)).diagnostic? interface =
      ((fields.get? field.name.text).filter (· ≠ field.type)).map
        fun existing => .conflictingTypes interface field.name existing field.type := by
  simp only [FieldMapping.outcome]
  cases fields.get? field.name.text with
  | none => rfl
  | some existing =>
      by_cases same : existing = field.type <;>
        simp [same, Verdict.diagnostic?, Option.filter_some]

/-- The right verdict goes with the warning that is due, if the mapping holds
what the methods before give. -/
theorem Explains.diagnostic?_eq {fields : FieldMapping} {earlier : List Method}
    {method : Method} {verdict : Verdict} (explains : engine.Explains fields method verdict)
    (held : ∀ name, fields.get? name = engine.givenType? earlier name)
    (interface : InterfaceName) :
    verdict.diagnostic? interface = engine.dueWarning? interface earlier method := by
  cases explains with
  | overridden lists =>
      obtain ⟨tag, overridden, -⟩ := listed?_eq_some_iff.1 lists
      simp only [dueWarning?, overridden]
      rfl
  | inferred implies =>
      obtain ⟨unlisted, implied⟩ := implied?_eq_some_iff.1 implies
      rw [diagnostic?_inferred, held]
      simp only [dueWarning?, unlisted, implied]
  | unknown unlisted silent =>
      simp only [dueWarning?, unlisted, silent]
      rfl

/-! ## Many methods -/

theorem Steps.concat {fields final : FieldMapping} {methods : List Method} {method : Method}
    {verdicts : List Verdict} {verdict : Verdict}
    (steps : engine.Steps fields methods verdicts final)
    (explains : engine.Explains final method verdict) :
    engine.Steps fields (methods ++ [method]) (verdicts ++ [verdict])
      (verdict.replayOn final) := by
  induction steps with
  | nil => exact .cons explains .nil
  | cons first _ ih => exact .cons first (ih explains)

/-- Behind methods that lead to where it starts, each step goes with the warning
that is due. -/
theorem Steps.diagnostics_from {fields final : FieldMapping} {earlier methods : List Method}
    {before verdicts : List Verdict} (reached : engine.Steps .empty earlier before fields)
    (steps : engine.Steps fields methods verdicts final) (interface : InterfaceName) :
    verdicts.filterMap (·.diagnostic? interface) =
      (methods.zipIdx earlier.length).filterMap fun entry =>
        engine.dueWarning? interface ((earlier ++ methods).take entry.2) entry.1 := by
  -- The methods that are gone move over to the earlier ones; all of them stay the same.
  induction steps generalizing earlier before with
  | nil => rfl
  | @cons fields final method methods verdict verdicts explains steps ih =>
      have due := explains.diagnostic?_eq (reached.get?_eq) interface
      have later := ih (reached.concat explains)
      simp only [List.length_append, List.length_singleton, List.append_assoc,
        List.singleton_append] at later
      simp only [List.filterMap_cons, List.zipIdx_cons, List.take_left, due, later]

theorem Steps.diagnostics_eq {final : FieldMapping} {methods : List Method}
    {verdicts : List Verdict} (steps : engine.Steps .empty methods verdicts final)
    (interface : InterfaceName) :
    verdicts.filterMap (·.diagnostic? interface) = engine.dueWarnings interface methods :=
  Steps.diagnostics_from .nil steps interface

/-- A run over methods from the start that succeeds raises the warnings that are due. -/
theorem diagnostics_of_result {interface : InterfaceName} {methods : List Method}
    {final : FieldMapping}
    (succeeds : (engine.inferMethods interface .empty methods).result = .ok final) :
    (engine.inferMethods interface .empty methods).diagnostics =
      engine.dueWarnings interface methods := by
  obtain ⟨verdicts, steps, events⟩ := steps_of_result succeeds
  rw [InferenceRun.diagnostics, events, Verdict.filterMap_diagnostic?_flatMap,
    steps.diagnostics_eq]

/-! ## Interfaces -/

/-- An interface with a list is not warned of, whether its list is good or bad. -/
theorem infer_diagnostics_of_override {interface : Interface} {tag : Annotation}
    (overridden : engine.overrideOn? interface.annotations = some tag) :
    (engine.infer interface).diagnostics = [] := by
  cases carried : FieldList.carriedBy engine.resolver tag with
  | error error => simp [InferenceRun.diagnostics, infer, overridden, carried]
  | ok fields =>
      rw [InferenceRun.diagnostics, infer_events_of_override overridden carried,
        Verdict.filterMap_diagnostic?_flatMap]
      simp [Verdict.diagnostic?]

/-- Inference raises exactly the warnings that are due.

* An interface with an override annotation raises none.
* Any other interface that inference succeeds on raises, in the order of its
  methods, the warning that is due for each of them behind those before it. -/
theorem infer_warnings (engine : InferenceEngine) (interface : Interface) :
    (∀ tag, engine.FirstOverride interface.annotations tag →
      (engine.infer interface).diagnostics = []) ∧
    (∀ fields, (∀ tag ∈ interface.annotations, engine.overrideType ≠ some tag.typeName) →
      (engine.infer interface).result = .ok fields →
      (engine.infer interface).diagnostics =
        engine.dueWarnings interface.qualifiedName interface.methods) := by
  constructor
  · intro tag first
    exact infer_diagnostics_of_override (overrideOn?_eq_some_iff.2 first)
  · intro fields unlisted succeeds
    rw [infer_eq_inferMethods (overrideOn?_eq_none_iff.2 unlisted)] at succeeds ⊢
    exact diagnostics_of_result succeeds

/-- In the sample the list changes the type of a field without a warning, and the
accessor behind it is warned of because of the type from the list. -/
theorem infer_warnings_sample :
    (Sample.engine.infer Sample.listed).diagnostics = [] ∧
    (Sample.engine.infer Sample.repeating).diagnostics =
      [.conflictingTypes Sample.repeating.qualifiedName Sample.foo (.plain "Int") (.plain "Long"),
        .unknownMethod Sample.repeating.qualifiedName "move(Int, Int)",
        .conflictingTypes Sample.repeating.qualifiedName Sample.foo (.plain "Date")
          (.plain "Int")] := by
  obtain ⟨silent, -⟩ := infer_warnings Sample.engine Sample.listed
  obtain ⟨-, due⟩ := infer_warnings Sample.engine Sample.repeating
  have succeeds : (Sample.engine.infer Sample.repeating).result =
      .ok (.ofList [(Sample.foo, .plain "Date"), (Sample.bar, .plain "Name")]) := by decide +kernel
  constructor
  · exact silent (Sample.listing ["id:Long"]) ⟨rfl, [.bare "Event"], [], rfl, by decide⟩
  · rw [due _ (by simp [Sample.repeating, Sample.mixed, Interface.withMethod]) succeeds]
    decide +kernel

end InferenceEngine

end EventFields

import EventFields.Proofs.FieldList.Rendering
import EventFields.Proofs.FieldMapping.WellFormed
import EventFields.Proofs.Inference.Trace
import EventFields.Proofs.Interface.WellFormed

/-!
# Well-formed types through inference

Types enter a run from three sides: lists are read by the resolver, getters return
types and setters are given them.  If all of these are well-formed, so is every type
in the verdicts of the run, in its warnings and in its mapping.  One step keeps this,
and so does a whole run, be it one that fails.
-/

namespace EventFields

/-! ## Where types come from -/

/-- All types that a resolver gives are well-formed. -/
def Resolver.Sound (resolver : Resolver) : Prop :=
  ∀ text type, resolver text = .ok type → type.WellFormed

theorem Resolver.sound_parsing : Resolver.parsing.Sound :=
  fun _ _ => TypeRef.wellFormed_of_parse

theorem FieldList.wellFormed_of_carriedBy {resolver : Resolver} (sound : resolver.Sound)
    {tag : Annotation} {fields : FieldMapping} (carried : carriedBy resolver tag = .ok fields) :
    fields.WellFormed := by
  unfold carriedBy at carried
  split at carried
  · cases carried
  · split at carried
    · cases carried
    · intro entry member
      obtain ⟨_, _, _, after, _, _, resolved⟩ := exists_denotes_of_parse carried member
      exact sound after entry.2 resolved

theorem Accessor.wellFormed_unwrapOptional {type : TypeRef} (wellFormed : type.WellFormed) :
    (unwrapOptional type).WellFormed := by
  cases type with
  | mk name arguments =>
      unfold unwrapOptional
      split
      · next inner only =>
        split
        · have arguments : arguments = [inner] := only
          subst arguments
          exact (TypeRef.wellFormed_mk.1 wellFormed).2 inner List.mem_cons_self
        · exact wellFormed
      · exact wellFormed

theorem Accessor.wellFormed_of_fieldType? {kind : Accessor} {method : Method} {type : TypeRef}
    (wellFormed : method.WellFormed) (implied : kind.fieldType? method = some type) :
    type.WellFormed := by
  cases kind with
  | getter =>
      cases implied
      exact wellFormed_unwrapOptional wellFormed.returnType
  | setter =>
      obtain ⟨parameter, first, rfl⟩ := Option.map_eq_some_iff.1 implied
      exact wellFormed.parameters parameter (List.mem_of_head? first)

theorem Method.WellFormed.impliedField? {method : Method} (wellFormed : method.WellFormed)
    {field : ImpliedField} (implied : method.impliedField? = some field) :
    field.type.WellFormed := by
  unfold Method.impliedField? at implied
  split at implied
  · cases implied
  · split at implied
    · next typed =>
      cases implied
      exact Accessor.wellFormed_of_fieldType? wellFormed typed
    · cases implied

/-! ## What comes out -/

/-- The types in a warning are well-formed and print differently. -/
def Diagnostic.WellFormed : Diagnostic → Prop
  | unknownMethod _ _ => True
  | conflictingTypes _ _ existing conflicting =>
      existing.WellFormed ∧ conflicting.WellFormed ∧ existing.text ≠ conflicting.text

/-- The types in a verdict are well-formed, and those in a conflict are two. -/
def Verdict.WellFormed : Verdict → Prop
  | explicit _ fields | overridden _ fields => fields.WellFormed
  | inferred _ field (.conflict existing) =>
      field.type.WellFormed ∧ existing.WellFormed ∧ existing ≠ field.type
  | inferred _ field _ => field.type.WellFormed
  | skipped _ | unknown _ => True

/-- The verdicts, the warnings and the mapping of a run are well-formed. -/
structure InferenceRun.WellFormed (run : InferenceRun) : Prop where
  verdicts : ∀ verdict ∈ run.verdicts, verdict.WellFormed
  diagnostics : ∀ diagnostic ∈ run.diagnostics, diagnostic.WellFormed
  result : ∀ fields, run.result = .ok fields → fields.WellFormed

/-! ## One verdict -/

namespace Verdict

variable {verdict : Verdict}

theorem WellFormed.diagnostic? (wellFormed : verdict.WellFormed) {interface : InterfaceName}
    {diagnostic : Diagnostic} (warned : verdict.diagnostic? interface = some diagnostic) :
    diagnostic.WellFormed := by
  unfold Verdict.diagnostic? at warned
  split at warned
  · cases warned
    trivial
  · cases warned
    obtain ⟨fieldFormed, existingFormed, differ⟩ := wellFormed
    exact ⟨existingFormed, fieldFormed, fun same =>
      differ (TypeRef.text_injective existingFormed fieldFormed same)⟩
  · cases warned

theorem WellFormed.replayOn (wellFormed : verdict.WellFormed) {fields : FieldMapping}
    (before : fields.WellFormed) : (verdict.replayOn fields).WellFormed := by
  cases verdict with
  | overridden _ _ => exact before.merge wellFormed
  | inferred _ _ outcome =>
      cases outcome with
      | added => exact before.set wellFormed
      | _ => exact before
  | _ => exact before

end Verdict

namespace InferenceEngine

variable {engine : InferenceEngine} (sound : engine.resolver.Sound)

include sound

theorem Explains.wellFormed {fields : FieldMapping} {method : Method} {verdict : Verdict}
    (explains : engine.Explains fields method verdict) (before : fields.WellFormed)
    (methodFormed : method.WellFormed) : verdict.WellFormed := by
  cases explains with
  | overridden lists =>
      obtain ⟨tag, -, carried⟩ := listed?_eq_some_iff.1 lists
      exact FieldList.wellFormed_of_carriedBy sound carried
  | inferred implies =>
      have fieldFormed := methodFormed.impliedField? (implied?_eq_some_iff.1 implies).2
      unfold FieldMapping.outcome
      split
      · exact fieldFormed
      · next existing held =>
        split
        · exact fieldFormed
        · next differ =>
          exact ⟨fieldFormed, FieldMapping.wellFormed_iff_get?.1 before _ existing held, differ⟩
  | unknown _ _ => trivial

/-! ## Runs -/

theorem Steps.wellFormed {fields final : FieldMapping} {methods : List Method}
    {verdicts : List Verdict} (steps : engine.Steps fields methods verdicts final)
    (before : fields.WellFormed) (methodsFormed : ∀ method ∈ methods, method.WellFormed) :
    (∀ verdict ∈ verdicts, verdict.WellFormed) ∧ final.WellFormed := by
  induction steps with
  | nil => exact ⟨by simp, before⟩
  | cons explains _ ih =>
      obtain ⟨methodFormed, others⟩ := List.forall_mem_cons.1 methodsFormed
      have first := explains.wellFormed sound before methodFormed
      obtain ⟨rest, after⟩ := ih (first.replayOn before) others
      exact ⟨List.forall_mem_cons.2 ⟨first, rest⟩, after⟩

omit sound in
/-- The warnings of a run are well-formed if its verdicts are. -/
theorem wellFormed_of_verdicts {interface : Interface}
    (verdicts : ∀ verdict ∈ (engine.infer interface).verdicts, verdict.WellFormed)
    (result : ∀ fields, (engine.infer interface).result = .ok fields → fields.WellFormed) :
    (engine.infer interface).WellFormed where
  verdicts := verdicts
  result := result
  diagnostics diagnostic member := by
    rw [InferenceRun.diagnostics, infer_events, Verdict.filterMap_diagnostic?_flatMap] at member
    obtain ⟨verdict, among, warned⟩ := List.mem_filterMap.1 member
    exact (verdicts verdict among).diagnostic? warned

theorem wellFormed_infer_of_override {interface : Interface} {tag : Annotation}
    (overridden : engine.overrideOn? interface.annotations = some tag) :
    (engine.infer interface).WellFormed := by
  have result := infer_result_of_override overridden
  cases carried : FieldList.carriedBy engine.resolver tag with
  | error error =>
      apply wellFormed_of_verdicts
      · simp [infer, overridden, carried, InferenceRun.verdicts]
      · intro fields succeeds
        cases (result.symm.trans succeeds).symm.trans carried
  | ok fields =>
      have fieldsFormed := FieldList.wellFormed_of_carriedBy sound carried
      apply wellFormed_of_verdicts
      · rw [InferenceRun.verdicts, infer_events_of_override overridden carried,
          Verdict.filterMap_verdict?_flatMap, List.forall_mem_cons, List.forall_mem_map]
        exact ⟨fieldsFormed, fun _ _ => trivial⟩
      · intro found succeeds
        cases (result.symm.trans succeeds).symm.trans carried
        exact fieldsFormed

theorem wellFormed_infer_of_unlisted {interface : Interface}
    (unlisted : engine.overrideOn? interface.annotations = none)
    (methodsFormed : ∀ method ∈ interface.methods, method.WellFormed) :
    (engine.infer interface).WellFormed := by
  obtain ⟨seen, verdicts, final, steps, events, ending⟩ :=
    engine.exists_steps interface.qualifiedName .empty interface.methods
  have seenFormed : ∀ method ∈ seen, method.WellFormed := by
    intro method among
    apply methodsFormed method
    rcases ending with ⟨all, -⟩ | ⟨_, _, _, split, -⟩
    · rw [all]
      exact among
    · rw [split]
      exact List.mem_append_left _ among
  obtain ⟨verdictsFormed, finalFormed⟩ :=
    steps.wellFormed sound FieldMapping.wellFormed_empty seenFormed
  have inferred := infer_eq_inferMethods unlisted
  apply wellFormed_of_verdicts
  · rw [InferenceRun.verdicts, inferred, events, Verdict.filterMap_verdict?_flatMap]
    exact verdictsFormed
  · intro fields succeeds
    rw [inferred] at succeeds
    rcases ending with ⟨-, result⟩ | ⟨_, _, _, -, -, result⟩
    · cases result.symm.trans succeeds
      exact finalFormed
    · cases result.symm.trans succeeds

/-- Inference on a well-formed interface gives well-formed types, also if it fails. -/
theorem wellFormed_infer {interface : Interface} (interfaceFormed : interface.WellFormed) :
    (engine.infer interface).WellFormed := by
  cases overridden : engine.overrideOn? interface.annotations with
  | some tag => exact wellFormed_infer_of_override sound overridden
  | none => exact wellFormed_infer_of_unlisted sound overridden interfaceFormed.methods

end InferenceEngine

end EventFields

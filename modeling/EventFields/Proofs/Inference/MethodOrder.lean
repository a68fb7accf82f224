import EventFields.Proofs.Inference.BadLists

/-!
# The order of methods

Without lists, a name has the type of the first accessor that implies it, and
each later accessor that implies another type is warned of.  The types that
methods imply for a name, in order, therefore tell both what the mapping holds
and how many warnings there are.  Permuting the methods permutes these types:
it matters exactly where they are not all the same.
-/

namespace EventFields

namespace Sample

def wrapping : Method :=
  { getter with returnType := .mk "java.util.Optional" [.plain "Long"] }

def barGetter : Method where
  name := "getBar"
  returnType := .plain "Text"

/-- Methods that do not agree on a type. -/
def disputed : Interface := { mixed with methods := [setter, getter, mover, getter] }

/-- Methods that agree once a layer of `Optional` is removed. -/
def agreed : Interface := { mixed with methods := [wrapping, mover, barGetter, setter] }

end Sample

/-- The field that a warning of conflicting types is about. -/
def Diagnostic.conflictingField? : Diagnostic → Option FieldName
  | unknownMethod _ _ => none
  | conflictingTypes _ field _ _ => some field

/-- Whether a warning is about a method that implies no field. -/
def Diagnostic.isUnknownMethod : Diagnostic → Bool
  | unknownMethod _ _ => true
  | conflictingTypes _ _ _ _ => false

namespace InferenceRun

/-- The warnings about unknown methods. -/
def unknownMethods (run : InferenceRun) : List Diagnostic :=
  run.diagnostics.filter (·.isUnknownMethod)

/-- The number of warnings about conflicting types for a field. -/
def conflicts (run : InferenceRun) (name : FieldName) : Nat :=
  run.diagnostics.countP (·.conflictingField? = some name)

/-- No conflicting types are warned of. -/
def Undisputed (run : InferenceRun) : Prop :=
  ∀ diagnostic ∈ run.diagnostics, diagnostic.conflictingField? = none

theorem undisputed_iff {run : InferenceRun} :
    run.Undisputed ↔ ∀ name, run.conflicts name = 0 := by
  simp only [Undisputed, conflicts, List.countP_eq_zero, decide_eq_true_eq]
  constructor
  · intro undisputed name diagnostic member
    simp [undisputed diagnostic member]
  · intro silent diagnostic member
    exact Option.eq_none_iff_forall_ne_some.2 fun name => silent name diagnostic member

end InferenceRun

/-! ## Implied types -/

/-- The types that methods imply for a name, in order. -/
def impliedTypes (methods : List Method) (name : FieldName) : List TypeRef :=
  methods.filterMap fun method =>
    (method.impliedField?.filter (·.name = name)).map (·.type)

/-- Methods that imply the same name imply the same type for it. -/
def Consistent (methods : List Method) : Prop :=
  ∀ method ∈ methods, ∀ method' ∈ methods, ∀ field field',
    method.impliedField? = some field → method'.impliedField? = some field' →
    field.name = field'.name → field.type = field'.type

/-- How many types are not the first one. -/
def deviations (types : List TypeRef) : Nat :=
  types.countP fun type => types.head? ≠ some type

/-- A getter implies the type that it returns, without a layer of `Optional`, and a
setter that of its only parameter. -/
theorem Method.type_of_impliedField? {method : Method} {field : ImpliedField}
    (implies : method.impliedField? = some field) :
    (field.kind = .getter ∧ field.type = Accessor.unwrapOptional method.returnType) ∨
      (field.kind = .setter ∧ method.parameters.map (·.type) = [field.type]) := by
  simp only [impliedField?] at implies
  cases found : Accessor.all.find? (·.shapes method) with
  | none => simp [found] at implies
  | some kind =>
      have shaped : kind.shapes method = true := by simpa using List.find?_some found
      simp only [found] at implies
      split at implies
      · next name type named typed =>
        cases implies
        cases kind with
        | getter => exact .inl ⟨rfl, (Option.some.inj typed).symm⟩
        | setter =>
            simp only [Accessor.shapes, Bool.and_eq_true, decide_eq_true_eq] at shaped
            obtain ⟨parameter, single⟩ := List.length_eq_one_iff.1 shaped.2
            refine .inr ⟨rfl, ?_⟩
            simpa [Accessor.fieldType?, single] using typed
      · cases implies

theorem impliedTypes_concat (methods : List Method) (method : Method) (name : FieldName) :
    impliedTypes (methods ++ [method]) name = impliedTypes methods name ++
      ((method.impliedField?.filter (·.name = name)).map (·.type)).toList := by
  rw [impliedTypes, List.filterMap_append, ← impliedTypes]
  cases implied : (method.impliedField?.filter (·.name = name)).map (·.type) <;> simp [implied]

theorem mem_impliedTypes_iff {methods : List Method} {name : FieldName} {type : TypeRef} :
    type ∈ impliedTypes methods name ↔ ∃ method ∈ methods, ∃ field,
      method.impliedField? = some field ∧ field.name = name ∧ field.type = type := by
  simp only [impliedTypes, List.mem_filterMap, Option.map_eq_some_iff, Option.filter_eq_some_iff,
    decide_eq_true_eq, and_assoc]

theorem consistent_iff {methods : List Method} :
    Consistent methods ↔ ∀ name, ∀ type ∈ impliedTypes methods name,
      ∀ type' ∈ impliedTypes methods name, type = type' := by
  constructor
  · intro consistent name type member type' member'
    obtain ⟨method, listed, field, implies, rfl, rfl⟩ := mem_impliedTypes_iff.1 member
    obtain ⟨method', listed', field', implies', named, rfl⟩ := mem_impliedTypes_iff.1 member'
    exact consistent method listed method' listed' field field' implies implies' named.symm
  · intro agree method listed method' listed' field field' implies implies' named
    exact agree field.name _ (mem_impliedTypes_iff.2 ⟨method, listed, field, implies, rfl, rfl⟩)
      _ (mem_impliedTypes_iff.2 ⟨method', listed', field', implies', named.symm, rfl⟩)

theorem Consistent.perm {methods reordered : List Method} (consistent : Consistent methods)
    (perm : reordered.Perm methods) : Consistent reordered :=
  fun method listed method' listed' =>
    consistent method (perm.mem_iff.1 listed) method' (perm.mem_iff.1 listed')

/-- No type deviates from the first one exactly if all of them are the same. -/
theorem deviations_eq_zero_iff {types : List TypeRef} :
    deviations types = 0 ↔ ∀ type ∈ types, ∀ type' ∈ types, type = type' := by
  simp only [deviations, List.countP_eq_zero, decide_eq_true_eq, not_not]
  constructor
  · intro first type member type' member'
    exact Option.some.inj ((first type member).symm.trans (first type' member'))
  · intro agree type member
    cases types with
    | nil => cases member
    | cons first rest => rw [List.head?_cons, agree first List.mem_cons_self type member]

/-- One more type deviates if there is a first one and it is another. -/
theorem deviations_concat (types : List TypeRef) (type : TypeRef) :
    deviations (types ++ [type]) =
      deviations types + ((types.head?.filter (· ≠ type)).toList).length := by
  cases types with
  | nil => simp [deviations]
  | cons first rest =>
      by_cases same : first = type <;> simp [deviations, Option.filter_some, same]

/-- If all types are the same, any order of them begins alike. -/
theorem head?_eq_of_perm {types types' : List TypeRef} (perm : types.Perm types')
    (agree : ∀ type ∈ types, ∀ type' ∈ types, type = type') : types.head? = types'.head? := by
  cases types with
  | nil => rw [perm.nil_eq]
  | cons first rest =>
      cases types' with
      | nil => exact absurd perm.eq_nil (List.cons_ne_nil first rest)
      | cons first' rest' =>
          have member : first' ∈ first :: rest := perm.mem_iff.2 List.mem_cons_self
          rw [List.head?_cons, List.head?_cons, agree first List.mem_cons_self first' member]

namespace InferenceEngine

variable {engine : InferenceEngine}

/-! ## Methods without lists -/

/-- None of the methods has an override. -/
def ListFree (engine : InferenceEngine) (methods : List Method) : Prop :=
  ∀ method ∈ methods, engine.overrideOn? method.annotations = none

theorem NoOverride.listFree {interface : Interface} (free : engine.NoOverride interface) :
    engine.ListFree interface.methods :=
  fun method listed => overrideOn?_eq_none_iff.2 (free.2 method listed)

theorem ListFree.of_concat {methods : List Method} {method : Method}
    (free : engine.ListFree (methods ++ [method])) :
    engine.ListFree methods ∧ engine.overrideOn? method.annotations = none := by
  obtain ⟨freeEarlier, freeLast⟩ := List.forall_mem_append.1 free
  exact ⟨freeEarlier, freeLast method List.mem_cons_self⟩

theorem ListFree.not_fails {methods : List Method} (free : engine.ListFree methods) :
    ∀ method ∈ methods, ∀ error, ¬ engine.Fails method error := by
  rintro method listed error ⟨tag, overridden, -⟩
  rw [free method listed] at overridden
  cases overridden

theorem ListFree.mentions_iff {methods : List Method} (free : engine.ListFree methods)
    {method : Method} (listed : method ∈ methods) (name : FieldName) :
    engine.Mentions method name ↔ ∃ field, method.impliedField? = some field ∧
      field.name = name := by
  simp [Mentions, listed?, implied?, free method listed]

theorem ListFree.firstImplied?_eq {methods : List Method} (free : engine.ListFree methods)
    (name : FieldName) :
    engine.firstImplied? methods name.text = (impliedTypes methods name).head? := by
  have sameImplied : ∀ method ∈ methods,
      ((engine.implied? method).filter (·.name.text = name.text)).map (·.type) =
        (method.impliedField?.filter (·.name = name)).map (·.type) := by
    intro method listed
    have sameName (field : ImpliedField) : field.name.text = name.text ↔ field.name = name :=
      ⟨Name.ext, congrArg _⟩
    simp only [implied?, free method listed, sameName]
  rw [impliedTypes, ← List.filterMap_congr sameImplied, List.head?_filterMap, firstImplied?]

/-- Without lists, methods give a name the first type that they imply for it. -/
theorem ListFree.givenType?_eq {methods : List Method} (free : engine.ListFree methods)
    (name : FieldName) :
    engine.givenType? methods name.text = (impliedTypes methods name).head? := by
  have noList : engine.lastListed? methods name.text = none := by
    rw [lastListed?, List.findSome?_eq_none_iff]
    intro method listed
    simp [listed?, free method (List.mem_reverse.1 listed)]
  rw [givenType?, noList, Option.none_or, free.firstImplied?_eq]

/-! ## Warnings -/

theorem dueWarnings_concat (engine : InferenceEngine) (interface : InterfaceName)
    (methods : List Method) (method : Method) :
    engine.dueWarnings interface (methods ++ [method]) =
      engine.dueWarnings interface methods ++
        (engine.dueWarning? interface methods method).toList := by
  have earlier : (methods.zipIdx.filterMap fun entry =>
        engine.dueWarning? interface ((methods ++ [method]).take entry.2) entry.1) =
      engine.dueWarnings interface methods := by
    refine List.filterMap_congr fun entry member => ?_
    have inside : entry.2 < methods.length := List.snd_lt_of_mem_zipIdx member
    rw [List.take_append_of_le_length (Nat.le_of_lt inside)]
  rw [dueWarnings, List.zipIdx_append, List.filterMap_append, earlier]
  cases due : engine.dueWarning? interface methods method <;> simp [due]

theorem dueWarning?_of_unknown {method : Method}
    (unlisted : engine.overrideOn? method.annotations = none)
    (silent : method.impliedField? = none) (interface : InterfaceName) (earlier : List Method) :
    engine.dueWarning? interface earlier method =
      some (.unknownMethod interface method.signature) := by
  simp only [dueWarning?, unlisted, silent]

theorem ListFree.dueWarning?_of_implied {earlier : List Method} (free : engine.ListFree earlier)
    {method : Method} {field : ImpliedField}
    (unlisted : engine.overrideOn? method.annotations = none)
    (implied : method.impliedField? = some field) (interface : InterfaceName) :
    engine.dueWarning? interface earlier method =
      ((impliedTypes earlier field.name).head?.filter (· ≠ field.type)).map
        fun existing => .conflictingTypes interface field.name existing field.type := by
  simp only [dueWarning?, unlisted, implied, free.givenType?_eq]

/-- The warnings about unknown methods among those that are due do not depend on
what stands before. -/
theorem ListFree.filter_isUnknownMethod {methods : List Method} (free : engine.ListFree methods)
    (interface : InterfaceName) :
    (engine.dueWarnings interface methods).filter (·.isUnknownMethod) =
      (methods.filter (·.impliedField?.isNone)).map fun method =>
        .unknownMethod interface method.signature := by
  induction methods using List.reverseRecOn with
  | nil => rfl
  | append_singleton methods method ih =>
      obtain ⟨freeEarlier, unlisted⟩ := free.of_concat
      rw [dueWarnings_concat, List.filter_append, ih freeEarlier, List.filter_append,
        List.map_append]
      cases implied : method.impliedField? with
      | none =>
          rw [dueWarning?_of_unknown unlisted implied]
          simp [implied, Diagnostic.isUnknownMethod]
      | some field =>
          rw [freeEarlier.dueWarning?_of_implied unlisted implied]
          cases (impliedTypes methods field.name).head?.filter (· ≠ field.type) <;>
            simp [implied, Diagnostic.isUnknownMethod]

/-- For each name as many warnings are due as there are accessors that imply another
type than the first one. -/
theorem ListFree.countP_dueWarnings {methods : List Method} (free : engine.ListFree methods)
    (interface : InterfaceName) (name : FieldName) :
    (engine.dueWarnings interface methods).countP (·.conflictingField? = some name) =
      deviations (impliedTypes methods name) := by
  induction methods using List.reverseRecOn with
  | nil => rfl
  | append_singleton methods method ih =>
      obtain ⟨freeEarlier, unlisted⟩ := free.of_concat
      rw [dueWarnings_concat, List.countP_append, ih freeEarlier, impliedTypes_concat]
      cases implied : method.impliedField? with
      | none =>
          rw [dueWarning?_of_unknown unlisted implied]
          simp [Diagnostic.conflictingField?]
      | some field =>
          rw [freeEarlier.dueWarning?_of_implied unlisted implied, Option.filter_some]
          by_cases named : field.name = name
          · subst named
            simp only [decide_true, if_true, Option.map_some, Option.toList_some,
              deviations_concat]
            cases (impliedTypes methods field.name).head?.filter (· ≠ field.type) <;>
              simp [Diagnostic.conflictingField?]
          · cases (impliedTypes methods field.name).head?.filter (· ≠ field.type) <;>
              simp [named, Diagnostic.conflictingField?]

/-! ## Interfaces -/

theorem NoOverride.reorder {interface : Interface} {reordered : List Method}
    (free : engine.NoOverride interface) (perm : reordered.Perm interface.methods) :
    engine.NoOverride { interface with methods := reordered } :=
  ⟨free.1, fun method listed => free.2 method (perm.mem_iff.1 listed)⟩

/-- Without overrides, inference of an interface succeeds with the warnings that are due. -/
theorem NoOverride.exists_infer {interface : Interface} (free : engine.NoOverride interface) :
    ∃ fields verdicts, engine.Steps .empty interface.methods verdicts fields ∧
      (engine.infer interface).result = .ok fields ∧
      (engine.infer interface).diagnostics =
        engine.dueWarnings interface.qualifiedName interface.methods := by
  rw [infer_eq_inferMethods (overrideOn?_eq_none_iff.2 free.1)]
  obtain ⟨fields, succeeds⟩ := exists_ok_of_good free.listFree.not_fails
    interface.qualifiedName .empty
  obtain ⟨verdicts, steps, -⟩ := steps_of_result succeeds
  exact ⟨fields, verdicts, steps, succeeds, diagnostics_of_result succeeds⟩

theorem NoOverride.unknownMethods_eq {interface : Interface}
    (free : engine.NoOverride interface) :
    (engine.infer interface).unknownMethods =
      (interface.methods.filter (·.impliedField?.isNone)).map fun method =>
        .unknownMethod interface.qualifiedName method.signature := by
  obtain ⟨-, -, -, -, due⟩ := free.exists_infer
  rw [InferenceRun.unknownMethods, due, free.listFree.filter_isUnknownMethod]

theorem NoOverride.conflicts_eq {interface : Interface} (free : engine.NoOverride interface)
    (name : FieldName) :
    (engine.infer interface).conflicts name =
      deviations (impliedTypes interface.methods name) := by
  obtain ⟨-, -, -, -, due⟩ := free.exists_infer
  rw [InferenceRun.conflicts, due, free.listFree.countP_dueWarnings]

/-- Without overrides, no conflict is warned of exactly if there is none. -/
theorem NoOverride.undisputed_iff {interface : Interface} (free : engine.NoOverride interface) :
    (engine.infer interface).Undisputed ↔ Consistent interface.methods := by
  simp only [InferenceRun.undisputed_iff, free.conflicts_eq, deviations_eq_zero_iff,
    consistent_iff]

theorem Steps.mem_names_iff_implied {methods : List Method} {verdicts : List Verdict}
    {fields : FieldMapping} (steps : engine.Steps .empty methods verdicts fields)
    (free : engine.ListFree methods) (name : FieldName) :
    name ∈ fields.names ↔ ∃ method ∈ methods, ∃ field, method.impliedField? = some field ∧
      field.name = name := by
  rw [steps.mem_names_iff]
  exact exists_congr fun method => and_congr_right fun listed => free.mentions_iff listed name

theorem Steps.get?_eq_implied {methods : List Method} {verdicts : List Verdict}
    {fields : FieldMapping} (steps : engine.Steps .empty methods verdicts fields)
    (free : engine.ListFree methods) (name : FieldName) :
    fields.get? name.text = (impliedTypes methods name).head? := by
  rw [steps.get?_eq, ← free.givenType?_eq, givenType?]

/-- Without overrides, the order of the methods matters to inference only where it
warns.  Inference succeeds for either order, and

* the mappings have the same names, and the same unknown methods are warned of;
* no conflict is warned of for the one order exactly if none is for the other, and
  that is so exactly if methods that imply the same name imply the same type for it;
* if no conflict is warned of, the mappings have the same fields;
* for each name there are as many warnings of conflicts as there are types implied
  for it that differ from the first one;
* the type implied is what a getter returns, without a layer of `Optional`, or what a
  setter is given. -/
theorem infer_of_perm (engine : InferenceEngine) (interface : Interface)
    (reordered : List Method) (free : engine.NoOverride interface)
    (perm : reordered.Perm interface.methods) :
    let run := engine.infer interface
    let rerun := engine.infer { interface with methods := reordered }
    ∃ fields fields', run.result = .ok fields ∧ rerun.result = .ok fields' ∧
      (∀ name, name ∈ fields.names ↔ name ∈ fields'.names) ∧
      run.unknownMethods.Perm rerun.unknownMethods ∧
      (run.Undisputed ↔ rerun.Undisputed) ∧
      (run.Undisputed ↔ Consistent interface.methods) ∧
      (run.Undisputed → fields.sameFields fields' = true) ∧
      (∀ name, run.conflicts name = deviations (impliedTypes interface.methods name)) ∧
      ∀ method ∈ interface.methods, ∀ field, method.impliedField? = some field →
        (field.kind = .getter ∧ field.type = Accessor.unwrapOptional method.returnType) ∨
          (field.kind = .setter ∧ method.parameters.map (·.type) = [field.type]) := by
  intro run rerun
  have freeReordered := free.reorder perm
  obtain ⟨fields, verdicts, steps, succeeds, -⟩ := free.exists_infer
  obtain ⟨fields', verdicts', steps', succeeds', -⟩ := freeReordered.exists_infer
  refine ⟨fields, fields', succeeds, succeeds', ?names, ?unknown, ?undisputed,
    free.undisputed_iff, ?same, free.conflicts_eq, fun _ _ _ => Method.type_of_impliedField?⟩
  case names =>
    intro name
    rw [steps.mem_names_iff_implied free.listFree,
      steps'.mem_names_iff_implied freeReordered.listFree]
    exact exists_congr fun method => and_congr_left fun _ => perm.mem_iff.symm
  case unknown =>
    rw [free.unknownMethods_eq, freeReordered.unknownMethods_eq]
    exact ((perm.symm).filter _).map _
  case undisputed =>
    rw [free.undisputed_iff, freeReordered.undisputed_iff]
    exact ⟨fun consistent => consistent.perm perm, fun consistent => consistent.perm perm.symm⟩
  case same =>
    intro undisputed
    have agree := consistent_iff.1 (free.undisputed_iff.1 undisputed)
    rw [FieldMapping.sameFields_iff]
    intro name
    rw [steps.get?_eq_implied free.listFree, steps'.get?_eq_implied freeReordered.listFree]
    exact head?_eq_of_perm (perm.symm.filterMap _) (agree name)

theorem noOverride_disputed : Sample.engine.NoOverride Sample.disputed := by
  simp [NoOverride, Sample.disputed, Sample.mixed, Sample.getter, Sample.setter, Sample.mover]

/-- Where the types differ, there are two warnings for one order and one for the
other; where they agree, the orders give the same fields at other places. -/
theorem infer_of_perm_sample :
    (Sample.engine.infer Sample.disputed).conflicts Sample.foo = 2 ∧
    (Sample.engine.infer { Sample.disputed with methods :=
      [Sample.getter, Sample.getter, Sample.mover, Sample.setter] }).conflicts Sample.foo = 1 ∧
    ∃ fields fields', (Sample.engine.infer Sample.agreed).result = .ok fields ∧
      (Sample.engine.infer { Sample.agreed with methods :=
        [Sample.setter, Sample.barGetter, Sample.mover, Sample.wrapping] }).result = .ok fields' ∧
      fields.sameFields fields' = true := by
  have agreedFree : Sample.engine.NoOverride Sample.agreed := by
    simp [NoOverride, Sample.agreed, Sample.mixed, Sample.wrapping, Sample.getter, Sample.setter,
      Sample.barGetter, Sample.mover]
  have regrouped : [Sample.getter, Sample.getter, Sample.mover, Sample.setter].Perm
      Sample.disputed.methods := by decide +kernel
  have backwards : [Sample.setter, Sample.barGetter, Sample.mover, Sample.wrapping].Perm
      Sample.agreed.methods := List.reverse_perm Sample.agreed.methods
  obtain ⟨-, -, -, -, -, -, -, -, -, twice, -⟩ :=
    infer_of_perm Sample.engine Sample.disputed _ noOverride_disputed regrouped
  obtain ⟨-, -, -, -, -, -, -, -, -, once, -⟩ :=
    infer_of_perm Sample.engine { Sample.disputed with methods := _ } _
      (noOverride_disputed.reorder regrouped) (.refl _)
  obtain ⟨fields, fields', succeeds, succeeds', -, -, -, -, same, -⟩ :=
    infer_of_perm Sample.engine Sample.agreed _ agreedFree backwards
  refine ⟨?_, ?_, fields, fields', succeeds, succeeds', same ?_⟩
  · rw [twice Sample.foo]
    decide +kernel
  · rw [once Sample.foo]
    decide +kernel
  · have silent : (Sample.engine.infer Sample.agreed).diagnostics =
        [.unknownMethod Sample.agreed.qualifiedName "move(Int, Int)"] := by decide +kernel
    simp [InferenceRun.Undisputed, silent, Diagnostic.conflictingField?]

end InferenceEngine

end EventFields

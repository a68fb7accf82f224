import EventFields.Proofs.FieldList
import EventFields.Proofs.Inference.Steps

/-!
# What inference computes

The mapping of an interface can be told without running over its methods.  Types
and places follow different rules: a name has the type of the last list that
mentions it or, if no list does, of the first accessor that implies it; but it
stands where it is first mentioned, by a list or an accessor.  Both rules come
from reading a run as one sequence of writes, in which the entries of lists
overwrite and the fields of accessors do not.
-/

namespace EventFields.InferenceEngine

variable {engine : InferenceEngine}

/-- An annotation is the first one of the override type. -/
def FirstOverride (engine : InferenceEngine) (annotations : List Annotation)
    (tag : Annotation) : Prop :=
  engine.overrideType = some tag.typeName ∧ ∃ before after,
    annotations = before ++ tag :: after ∧ ∀ other ∈ before, other.typeName ≠ tag.typeName

/-- No override annotation applies to an interface: neither the interface nor one of
its methods carries one. -/
def NoOverride (engine : InferenceEngine) (interface : Interface) : Prop :=
  (∀ tag ∈ interface.annotations, engine.overrideType ≠ some tag.typeName) ∧
    ∀ method ∈ interface.methods, ∀ tag ∈ method.annotations,
      engine.overrideType ≠ some tag.typeName

/-- A method mentions a name: in its list or, if it has no override, by implying it. -/
def Mentions (engine : InferenceEngine) (method : Method) (name : FieldName) : Prop :=
  (∃ listed, engine.listed? method = some listed ∧ name ∈ listed.names) ∨
    ∃ field, engine.implied? method = some field ∧ field.name = name

/-- The names that a method mentions, in order and as often as they are listed. -/
def mentionedNames (engine : InferenceEngine) (method : Method) : List FieldName :=
  match engine.overrideOn? method.annotations with
  | some tag => FieldList.listedNames tag
  | none => (method.impliedField?.map (·.name)).toList

/-- The type that the last list with a name gives to it. -/
def lastListed? (engine : InferenceEngine) (methods : List Method) (name : String) :
    Option TypeRef :=
  methods.reverse.findSome? fun method => (engine.listed? method).bind (·.get? name)

/-- The type that the first accessor that implies a name gives to it. -/
def firstImplied? (engine : InferenceEngine) (methods : List Method) (name : String) :
    Option TypeRef :=
  methods.findSome? fun method =>
    ((engine.implied? method).filter (·.name.text = name)).map (·.type)

/-- What a method writes. -/
def writes (engine : InferenceEngine) (method : Method) : List FieldMapping.Write :=
  match engine.listed? method, engine.implied? method with
  | some listed, _ => FieldMapping.overwrites listed.entries
  | none, some field => [.keep field.name field.type]
  | none, none => []

/-! ## Override annotations -/

theorem overrideOn?_eq_some_iff {annotations : List Annotation} {tag : Annotation} :
    engine.overrideOn? annotations = some tag ↔ engine.FirstOverride annotations tag := by
  simp only [overrideOn?, FirstOverride]
  cases wanted : engine.overrideType with
  | none => simp
  | some typeName =>
      simp only [List.find?_eq_some_iff_append, decide_eq_true_eq, Option.some.injEq,
        Bool.not_eq_true', decide_eq_false_iff_not]
      constructor
      · rintro ⟨rfl, split⟩
        exact ⟨rfl, split⟩
      · rintro ⟨rfl, split⟩
        exact ⟨rfl, split⟩

theorem overrideOn?_eq_none_iff {annotations : List Annotation} :
    engine.overrideOn? annotations = none ↔
      ∀ tag ∈ annotations, engine.overrideType ≠ some tag.typeName := by
  simp only [overrideOn?]
  cases engine.overrideType with
  | none => simp
  | some typeName =>
      rw [List.find?_eq_none]
      simp [eq_comm]

/-! ## The writes of one method -/

theorem mem_map_name_writes {method : Method} {name : FieldName} :
    name ∈ (engine.writes method).map (·.name) ↔ engine.Mentions method name := by
  simp only [writes, Mentions]
  cases lists : engine.listed? method with
  | some listed =>
      rw [FieldMapping.map_name_overwrites]
      simp [implied?_eq_none_of_listed? lists, FieldMapping.names]
  | none =>
      cases engine.implied? method with
      | some field => simp [FieldMapping.Write.name, eq_comm]
      | none => simp

theorem lastOverwrite?_writes (method : Method) (sought : String) :
    FieldMapping.lastOverwrite? sought (engine.writes method) =
      (engine.listed? method).bind (·.get? sought) := by
  simp only [writes]
  cases engine.listed? method with
  | some listed => exact FieldMapping.lastOverwrite?_overwrites listed.nodup sought
  | none => cases engine.implied? method <;> rfl

theorem firstKeep?_writes (method : Method) (sought : String) :
    FieldMapping.firstKeep? sought (engine.writes method) =
      ((engine.implied? method).filter (·.name.text = sought)).map (·.type) := by
  simp only [writes]
  cases lists : engine.listed? method with
  | some listed =>
      rw [implied?_eq_none_of_listed? lists]
      exact FieldMapping.firstKeep?_overwrites listed.entries sought
  | none =>
      cases engine.implied? method with
      | none => rfl
      | some field =>
          by_cases same : field.name.text = sought <;>
            simp [FieldMapping.firstKeep?, FieldMapping.Write.keeps?, Option.filter, same]

/-! ## The writes of steps -/

theorem Explains.replayOn_eq {fields : FieldMapping} {method : Method} {verdict : Verdict}
    (explains : engine.Explains fields method verdict) :
    verdict.replayOn fields = fields.writeAll (engine.writes method) := by
  cases explains with
  | @overridden listed lists =>
      simp only [writes, lists]
      exact FieldMapping.merge_eq_writeAll fields listed
  | @inferred field implies =>
      simp only [writes, listed?_eq_none_of_implied? implies, implies]
      exact congrArg Prod.snd (insertInferred_eq fields field method).symm
  | unknown overridden silent =>
      have nothing : engine.writes method = [] := by
        simp [writes, listed?, implied?, overridden, silent]
      rw [nothing]
      rfl

theorem Explains.map_name_writes {fields : FieldMapping} {method : Method} {verdict : Verdict}
    (explains : engine.Explains fields method verdict) :
    (engine.writes method).map (·.name) = (engine.mentionedNames method).eraseDups := by
  cases explains with
  | overridden lists =>
      obtain ⟨tag, overridden, carried⟩ := listed?_eq_some_iff.1 lists
      simp only [writes, lists, mentionedNames, overridden, FieldMapping.map_name_overwrites]
      exact FieldList.names_of_carriedBy carried
  | @inferred field implies =>
      simp only [writes, listed?_eq_none_of_implied? implies, implies]
      obtain ⟨overridden, implied⟩ := implied?_eq_some_iff.1 implies
      simp [mentionedNames, overridden, implied, FieldMapping.Write.name, List.eraseDups_cons]
  | unknown overridden silent =>
      simp [writes, listed?, implied?, mentionedNames, overridden, silent]

/-- Steps perform the writes of their methods, one after the other. -/
theorem Steps.eq_writeAll {fields final : FieldMapping} {methods : List Method}
    {verdicts : List Verdict} (steps : engine.Steps fields methods verdicts final) :
    final = fields.writeAll (methods.flatMap engine.writes) := by
  induction steps with
  | nil => rfl
  | cons explains _ ih =>
      rw [ih, explains.replayOn_eq, List.flatMap_cons, FieldMapping.writeAll_append]

theorem Steps.flatMap_map_name_writes {fields final : FieldMapping} {methods : List Method}
    {verdicts : List Verdict} (steps : engine.Steps fields methods verdicts final) :
    methods.flatMap (fun method => (engine.writes method).map (·.name)) =
      methods.flatMap fun method => (engine.mentionedNames method).eraseDups := by
  induction steps with
  | nil => rfl
  | cons explains _ ih =>
      rw [List.flatMap_cons, List.flatMap_cons, explains.map_name_writes, ih]

/-- Right steps from the empty mapping leave the names in the order of first mention. -/
theorem Steps.names_eq {final : FieldMapping} {methods : List Method} {verdicts : List Verdict}
    (steps : engine.Steps .empty methods verdicts final) :
    final.names = (methods.flatMap engine.mentionedNames).eraseDups := by
  rw [steps.eq_writeAll, FieldMapping.names_writeAll, FieldMapping.names_empty, List.nil_append,
    List.map_flatMap, steps.flatMap_map_name_writes, eraseDups_flatMap_eraseDups]

theorem Steps.mem_names_iff {final : FieldMapping} {methods : List Method}
    {verdicts : List Verdict} (steps : engine.Steps .empty methods verdicts final)
    (name : FieldName) :
    name ∈ final.names ↔ ∃ method ∈ methods, engine.Mentions method name := by
  rw [steps.eq_writeAll, FieldMapping.names_writeAll, FieldMapping.names_empty, List.nil_append,
    List.mem_eraseDups, List.map_flatMap, List.mem_flatMap]
  simp only [mem_map_name_writes]

theorem Steps.get?_eq {final : FieldMapping} {methods : List Method} {verdicts : List Verdict}
    (steps : engine.Steps .empty methods verdicts final) (sought : String) :
    final.get? sought =
      (engine.lastListed? methods sought).or (engine.firstImplied? methods sought) := by
  rw [steps.eq_writeAll, FieldMapping.get?_writeAll, FieldMapping.get?_empty, Option.or_none,
    FieldMapping.lastOverwrite?_flatMap, FieldMapping.firstKeep?_flatMap]
  simp only [lastOverwrite?_writes, firstKeep?_writes, lastListed?, firstImplied?]

/-- The mapping of an interface that inference succeeds on.

* An interface with an override annotation has the list of the first one.
* Otherwise the names are those that methods mention, in the order in which they
  are first mentioned; and a name has the type of the last list that mentions it
  or, if there is none, of the first accessor that implies it. -/
theorem infer_meaning (engine : InferenceEngine) (interface : Interface) :
    (∀ tag, engine.FirstOverride interface.annotations tag →
      (engine.infer interface).result = FieldList.carriedBy engine.resolver tag) ∧
    (∀ fields, (∀ tag ∈ interface.annotations, engine.overrideType ≠ some tag.typeName) →
      (engine.infer interface).result = .ok fields →
      (∀ name, name ∈ fields.names ↔
        ∃ method ∈ interface.methods, engine.Mentions method name) ∧
      (∀ sought, fields.get? sought =
        (engine.lastListed? interface.methods sought).or
          (engine.firstImplied? interface.methods sought)) ∧
      fields.names = (interface.methods.flatMap engine.mentionedNames).eraseDups) := by
  constructor
  · intro tag first
    exact infer_result_of_override (overrideOn?_eq_some_iff.2 first)
  · intro fields unlisted succeeds
    rw [infer_eq_inferMethods (overrideOn?_eq_none_iff.2 unlisted)] at succeeds
    obtain ⟨verdicts, steps, -⟩ := steps_of_result succeeds
    exact ⟨steps.mem_names_iff, steps.get?_eq, steps.names_eq⟩

/-- In the sample the date from the list wins over both accessors, but its field
keeps the first place. -/
theorem infer_meaning_sample :
    (Sample.engine.infer Sample.listed).result = .ok (.ofList [(Sample.id, .plain "Long")]) ∧
    (Sample.engine.lastListed? Sample.mixed.methods "foo").or
      (Sample.engine.firstImplied? Sample.mixed.methods "foo") = some (.plain "Date") ∧
    (Sample.mixed.methods.flatMap Sample.engine.mentionedNames).eraseDups =
      [Sample.foo, Sample.bar] := by
  obtain ⟨listed, -⟩ := infer_meaning Sample.engine Sample.listed
  obtain ⟨-, inferred⟩ := infer_meaning Sample.engine Sample.mixed
  have succeeds : (Sample.engine.infer Sample.mixed).result =
      .ok (.ofList [(Sample.foo, .plain "Date"), (Sample.bar, .plain "Name")]) := by decide +kernel
  obtain ⟨-, types, order⟩ := inferred _ (by simp [Sample.mixed]) succeeds
  refine ⟨?_, (types "foo").symm, order.symm⟩
  rw [listed (Sample.listing ["id:Long"]) ⟨rfl, [.bare "Event"], [], rfl, by decide⟩]
  decide +kernel

end EventFields.InferenceEngine

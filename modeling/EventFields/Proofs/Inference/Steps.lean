import EventFields.Inference
import EventFields.Proofs.FieldMapping.Writes

/-!
# Inference step by step

A method contributes in one of three ways: its list is merged, the field that it
implies is offered, or it is unknown.  `Explains` says which verdict is right for
a method and the mapping before it.  A verdict determines its events and the
mapping after it, so that a run over many methods is described by its verdicts
alone: inference takes right steps, one for each method, up to the end or up to
the first method whose list is bad.
-/

namespace EventFields

/-- What becomes of an inferred field: whether its name is held, and with which type. -/
def FieldMapping.outcome (fields : FieldMapping) (field : ImpliedField) : Outcome :=
  match fields.get? field.name.text with
  | none => .added
  | some existing => if existing = field.type then .confirmed else .conflict existing

namespace Verdict

/-- The method that a verdict is about. -/
def method? : Verdict → Option Method
  | explicit _ _ => none
  | skipped method => some method
  | overridden method _ => some method
  | inferred method _ _ => some method
  | unknown method => some method

/-- Whether a verdict goes with a warning: the method is unknown, or its field is
in conflict. -/
def warns : Verdict → Bool
  | unknown _ => true
  | inferred _ _ (.conflict _) => true
  | _ => false

/-- The warning that goes with a verdict. -/
def diagnostic? (interface : InterfaceName) : Verdict → Option Diagnostic
  | unknown method => some (.unknownMethod interface method.signature)
  | inferred _ field (.conflict existing) =>
      some (.conflictingTypes interface field.name existing field.type)
  | _ => none

/-- The events of a verdict: its warning comes first. -/
def events (interface : InterfaceName) (verdict : Verdict) : List InferenceEvent :=
  ((verdict.diagnostic? interface).map InferenceEvent.warned).toList ++ [.decided verdict]

/-- The mapping after a verdict: lists are merged, and added fields inserted. -/
def replayOn (fields : FieldMapping) : Verdict → FieldMapping
  | overridden _ listed => fields.merge listed
  | inferred _ field .added => fields.set field.name field.type
  | _ => fields

/-- The mapping that verdicts build from the empty one. -/
def replay (verdicts : List Verdict) : FieldMapping :=
  verdicts.foldl replayOn .empty

end Verdict

namespace InferenceEngine

variable {engine : InferenceEngine}

/-- The fields that a method lists, if it has an override with a good list. -/
def listed? (engine : InferenceEngine) (method : Method) : Option FieldMapping :=
  (engine.overrideOn? method.annotations).bind fun tag =>
    (FieldList.carriedBy engine.resolver tag).toOption

/-- The field that a method implies, if it has no override. -/
def implied? (engine : InferenceEngine) (method : Method) : Option ImpliedField :=
  match engine.overrideOn? method.annotations with
  | some _ => none
  | none => method.impliedField?

/-- A method has an override whose list is bad. -/
def Fails (engine : InferenceEngine) (method : Method) (error : ValidationError) : Prop :=
  ∃ tag, engine.overrideOn? method.annotations = some tag ∧
    FieldList.carriedBy engine.resolver tag = .error error

/-- The verdict on a method is the right one for the mapping before it. -/
inductive Explains (engine : InferenceEngine) (fields : FieldMapping) :
    Method → Verdict → Prop
  | overridden {method : Method} {listed : FieldMapping} : engine.listed? method = some listed →
      Explains engine fields method (.overridden method listed)
  | inferred {method : Method} {field : ImpliedField} : engine.implied? method = some field →
      Explains engine fields method (.inferred method field (fields.outcome field))
  | unknown {method : Method} : engine.overrideOn? method.annotations = none →
      method.impliedField? = none → Explains engine fields method (.unknown method)

/-- Right verdicts on methods in order lead from one mapping to another. -/
inductive Steps (engine : InferenceEngine) :
    FieldMapping → List Method → List Verdict → FieldMapping → Prop
  | nil {fields : FieldMapping} : Steps engine fields [] [] fields
  | cons {fields final : FieldMapping} {method : Method} {methods : List Method}
      {verdict : Verdict} {verdicts : List Verdict} : engine.Explains fields method verdict →
      Steps engine (verdict.replayOn fields) methods verdicts final →
      Steps engine fields (method :: methods) (verdict :: verdicts) final

/-! ## One method -/

theorem listed?_eq_some_iff {method : Method} {listed : FieldMapping} :
    engine.listed? method = some listed ↔
      ∃ tag, engine.overrideOn? method.annotations = some tag ∧
        FieldList.carriedBy engine.resolver tag = .ok listed := by
  rw [listed?, Option.bind_eq_some_iff]
  refine exists_congr fun tag => and_congr_right fun _ => ?_
  cases FieldList.carriedBy engine.resolver tag <;> simp [Except.toOption]

theorem implied?_eq_some_iff {method : Method} {field : ImpliedField} :
    engine.implied? method = some field ↔
      engine.overrideOn? method.annotations = none ∧ method.impliedField? = some field := by
  simp only [implied?]
  cases engine.overrideOn? method.annotations <;> simp

/-- A method that implies a field lists none. -/
theorem listed?_eq_none_of_implied? {method : Method} {field : ImpliedField}
    (implies : engine.implied? method = some field) : engine.listed? method = none := by
  obtain ⟨unlisted, -⟩ := implied?_eq_some_iff.1 implies
  simp [listed?, unlisted]

/-- A method that lists fields implies none. -/
theorem implied?_eq_none_of_listed? {method : Method} {listed : FieldMapping}
    (lists : engine.listed? method = some listed) : engine.implied? method = none := by
  cases implies : engine.implied? method with
  | none => rfl
  | some field => simp [listed?_eq_none_of_implied? implies] at lists

theorem insertInferred_eq (fields : FieldMapping) (field : ImpliedField) (method : Method) :
    fields.insertInferred field.name field.type =
      (fields.outcome field,
        (Verdict.inferred method field (fields.outcome field)).replayOn fields) := by
  simp only [FieldMapping.insertInferred, FieldMapping.outcome]
  cases held : fields.get? field.name.text with
  | none => rfl
  | some existing => by_cases same : existing = field.type <;> simp [same, Verdict.replayOn]

theorem contributeField_eq (interface : InterfaceName) (fields : FieldMapping) (method : Method)
    (field : ImpliedField) :
    contributeField interface fields method field =
      ⟨(Verdict.inferred method field (fields.outcome field)).events interface,
        (Verdict.inferred method field (fields.outcome field)).replayOn fields⟩ := by
  rw [contributeField, insertInferred_eq fields field method]
  cases fields.outcome field <;> rfl

/-- A method either has a bad list or gets the right verdict, which determines
what it contributes. -/
theorem contribute_cases (engine : InferenceEngine) (interface : InterfaceName)
    (fields : FieldMapping) (method : Method) :
    (∃ error, engine.Fails method error ∧
      engine.contribute interface fields method = .error error) ∨
    ∃ verdict, engine.Explains fields method verdict ∧
      engine.contribute interface fields method =
        .ok ⟨verdict.events interface, verdict.replayOn fields⟩ := by
  simp only [contribute]
  cases overridden : engine.overrideOn? method.annotations with
  | some tag =>
      cases carried : FieldList.carriedBy engine.resolver tag with
      | error error => exact .inl ⟨error, ⟨tag, overridden, carried⟩, by simp only [carried]⟩
      | ok listed =>
          refine .inr ⟨_, .overridden (listed?_eq_some_iff.2 ⟨tag, overridden, carried⟩), ?_⟩
          simp only [carried]
          rfl
  | none =>
      cases implied : method.impliedField? with
      | some field =>
          exact .inr ⟨_, .inferred (implied?_eq_some_iff.2 ⟨overridden, implied⟩),
            congrArg _ (contributeField_eq interface fields method field)⟩
      | none => exact .inr ⟨_, .unknown overridden implied, rfl⟩

/-! ## Many methods -/

/-- A run over methods consists of right steps up to its end, or up to the first
method with a bad list. -/
theorem exists_steps (engine : InferenceEngine) (interface : InterfaceName)
    (fields : FieldMapping) (methods : List Method) :
    ∃ seen verdicts final, engine.Steps fields seen verdicts final ∧
      (engine.inferMethods interface fields methods).events =
        verdicts.flatMap (·.events interface) ∧
      ((methods = seen ∧ (engine.inferMethods interface fields methods).result = .ok final) ∨
        ∃ method rest error, methods = seen ++ method :: rest ∧ engine.Fails method error ∧
          (engine.inferMethods interface fields methods).result = .error error) := by
  -- The methods that were seen grow from the front, so the mapping must be general.
  induction methods generalizing fields with
  | nil => exact ⟨[], [], fields, .nil, rfl, .inl ⟨rfl, rfl⟩⟩
  | cons method rest ih =>
      rcases engine.contribute_cases interface fields method with
        ⟨error, fails, failed⟩ | ⟨verdict, explains, contributed⟩
      · refine ⟨[], [], fields, .nil, ?_, .inr ⟨method, rest, error, rfl, fails, ?_⟩⟩
        · simp [inferMethods, failed]
        · simp [inferMethods, failed]
      · obtain ⟨seen, verdicts, final, steps, events, ending⟩ := ih (verdict.replayOn fields)
        refine ⟨method :: seen, verdict :: verdicts, final, .cons explains steps, ?_, ?_⟩
        · simp [inferMethods, contributed, InferenceRun.after, events]
        · simp only [inferMethods, contributed, InferenceRun.after]
          rcases ending with ⟨rfl, result⟩ | ⟨bad, later, error, rfl, fails, result⟩
          · exact .inl ⟨rfl, result⟩
          · exact .inr ⟨bad, later, error, rfl, fails, result⟩

/-- A run over methods that succeeds has a right step for each of them. -/
theorem steps_of_result {interface : InterfaceName} {fields final : FieldMapping}
    {methods : List Method}
    (succeeds : (engine.inferMethods interface fields methods).result = .ok final) :
    ∃ verdicts, engine.Steps fields methods verdicts final ∧
      (engine.inferMethods interface fields methods).events =
        verdicts.flatMap (·.events interface) := by
  obtain ⟨seen, verdicts, final', steps, events, ⟨rfl, result⟩ | ⟨_, _, _, -, -, result⟩⟩ :=
    engine.exists_steps interface fields methods
  · cases result.symm.trans succeeds
    exact ⟨verdicts, steps, events⟩
  · cases result.symm.trans succeeds

/-! ## Interfaces -/

/-- An interface without a list is inferred from its methods. -/
theorem infer_eq_inferMethods {interface : Interface}
    (unlisted : engine.overrideOn? interface.annotations = none) :
    engine.infer interface =
      engine.inferMethods interface.qualifiedName .empty interface.methods := by
  rw [infer, unlisted]

/-- An interface with a list takes its mapping from there, and looks at no method. -/
theorem infer_result_of_override {interface : Interface} {tag : Annotation}
    (overridden : engine.overrideOn? interface.annotations = some tag) :
    (engine.infer interface).result = FieldList.carriedBy engine.resolver tag := by
  simp only [infer, overridden]
  cases FieldList.carriedBy engine.resolver tag <;> rfl

end InferenceEngine

/-! ## A sample

A conflict of two accessors, a list that settles it, and an unknown method.  What
inference does with them is computed. -/

/-- Equality of results. -/
instance decidableEqResult {ε α : Type} [DecidableEq ε] [DecidableEq α] :
    DecidableEq (Except ε α)
  | .ok left, .ok right => decidable_of_iff (left = right) ⟨congrArg _, Except.ok.inj⟩
  | .error left, .error right => decidable_of_iff (left = right) ⟨congrArg _, Except.error.inj⟩
  | .ok _, .error _ => .isFalse nofun
  | .error _, .ok _ => .isFalse nofun

namespace Sample

/-- An engine that takes every text for a name. -/
def engine : InferenceEngine where
  overrideType := some "Fields"
  resolver text := .ok (.plain text)

/-- An override annotation that lists entries. -/
def listing (entries : List String) : Annotation :=
  .withElement (.bare "Fields") FieldList.valueElement (.list entries)

def id : FieldName := ⟨"id", by decide⟩

def foo : FieldName := ⟨"foo", by decide⟩

def bar : FieldName := ⟨"bar", by decide⟩

def getter : Method where
  name := "getFoo"
  returnType := .plain "Int"

def setter : Method where
  name := "setFoo"
  parameters := [⟨"foo", .plain "Long"⟩]

def lister : Method where
  name := "setBar"
  parameters := [⟨"bar", .plain "Int"⟩]
  annotations := [listing ["bar:Text", "foo:Date", "bar:Name"]]

def mover : Method where
  name := "move"
  parameters := [⟨"x", .plain "Int"⟩, ⟨"y", .plain "Int"⟩]

/-- An interface without a list of its own. -/
def mixed : Interface where
  qualifiedName := ⟨"org.example.Mixed", by decide⟩
  methods := [getter, setter, lister, mover]

/-- What inference decides about the two accessors, and about the others. -/
def accessors : List Verdict :=
  [.inferred getter ⟨.getter, foo, .plain "Int"⟩ .added,
    .inferred setter ⟨.setter, foo, .plain "Long"⟩ (.conflict (.plain "Int"))]

def others : List Verdict :=
  [.overridden lister (.ofList [(bar, .plain "Name"), (foo, .plain "Date")]), .unknown mover]

/-- The same methods under an interface with a list. -/
def listed : Interface where
  qualifiedName := ⟨"org.example.Listed", by decide⟩
  annotations := [.bare "Event", listing ["id:Long"]]
  methods := [getter, setter, lister, mover]

end Sample

end EventFields

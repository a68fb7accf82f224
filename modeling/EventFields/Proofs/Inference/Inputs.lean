import EventFields.Proofs.Inference.MethodOrder

/-!
# What inference reads

Of an interface, inference reads the name, the first override annotation and, if
there is none, the methods.  Of a method it reads the name, the types of the
parameters, the return type and the first override annotation.  Of an annotation
it reads the texts in the `value` element, and of the resolver nothing unless it
reads a list.  Interfaces that agree on this much cannot be told apart by a
result or a warning: whatever else they hold, one step leads both to the same
mapping, and so does a run.
-/

namespace EventFields

namespace Sample

/-- The list of the sample as a single text, beside another element. -/
def listingAlone : Annotation :=
  (listing []).withElement "note" (.single "id") |>.withElement FieldList.valueElement
    (.single "id:Long")

/-- The sample with a list, spelled otherwise and without methods. -/
def relisted : Interface :=
  { listed with sourceFile := some "Listed.kt", annotations := [listingAlone], methods := [] }

/-- The sample without a list, with other names of parameters and more annotations,
among them a bad list behind a good one. -/
def disguised : Interface :=
  { mixed with
    sourceFile := some "Mixed.kt"
    annotations := [.bare "Event"]
    methods := [getter.annotate (.bare "Event"),
      { setter with parameters := [⟨"value", .plain "Long"⟩] },
      lister.annotate (listing ["id"]), mover] }

end Sample

/-- Two annotations show the same list: both lack the `value` element, both have
something else than texts there, or both have the same texts. -/
inductive Annotation.SameList (left right : Annotation) : Prop
  | missing : left.element? FieldList.valueElement = none →
      right.element? FieldList.valueElement = none → SameList left right
  | nonText {value value' : ElementValue} :
      left.element? FieldList.valueElement = some value →
      right.element? FieldList.valueElement = some value' →
      value.texts? = none → value'.texts? = none → SameList left right
  | texts {value value' : ElementValue} {texts : List String} :
      left.element? FieldList.valueElement = some value →
      right.element? FieldList.valueElement = some value' →
      value.texts? = some texts → value'.texts? = some texts → SameList left right

/-- The same list is read from annotations of one type that show it. -/
theorem Annotation.SameList.carriedBy_eq {left right : Annotation}
    (same : left.SameList right) (sameType : left.typeName = right.typeName)
    (resolver : Resolver) :
    FieldList.carriedBy resolver left = FieldList.carriedBy resolver right := by
  cases same with
  | missing lacks lacks' => simp only [FieldList.carriedBy, lacks, lacks', sameType]
  | nonText has has' other other' =>
      simp only [FieldList.carriedBy, has, has', other, other', sameType]
  | texts has has' reads reads' => simp only [FieldList.carriedBy, has, has', reads, reads']

/-! ## What a method implies -/

/-- The field that a method implies depends on its name and its types. -/
theorem Method.impliedField?_congr {left right : Method} (sameName : left.name = right.name)
    (sameParameters : left.parameters.map (·.type) = right.parameters.map (·.type))
    (sameReturn : left.returnType = right.returnType) :
    left.impliedField? = right.impliedField? := by
  have sameLength : left.parameters.length = right.parameters.length := by
    simpa using congrArg List.length sameParameters
  have sameEmpty : left.parameters.isEmpty = right.parameters.isEmpty := by
    simpa using congrArg List.isEmpty sameParameters
  have sameHead : left.parameters.head?.map (·.type) = right.parameters.head?.map (·.type) := by
    simpa using congrArg List.head? sameParameters
  have sameShapes (kind : Accessor) : kind.shapes left = kind.shapes right := by
    cases kind <;> simp only [Accessor.shapes, sameName, sameLength, sameEmpty]
  have sameField (kind : Accessor) : kind.fieldName? left = kind.fieldName? right := by
    simp only [Accessor.fieldName?, sameName]
  have sameType (kind : Accessor) : kind.fieldType? left = kind.fieldType? right := by
    cases kind <;> simp only [Accessor.fieldType?, sameReturn, sameHead]
  simp only [Method.impliedField?, sameShapes, sameField, sameType]

theorem Method.signature_congr {left right : Method} (sameName : left.name = right.name)
    (sameParameters : left.parameters.map (·.type) = right.parameters.map (·.type)) :
    left.signature = right.signature := by
  have sameTexts := congrArg (List.map TypeRef.text) sameParameters
  rw [List.map_map, List.map_map] at sameTexts
  simp only [Method.signature, sameName]
  exact congrArg (fun texts => right.name ++ "(" ++ Text.joined ", " texts ++ ")") sameTexts

namespace InferenceEngine

variable {engine : InferenceEngine}

/-! ## Inputs that cannot be told apart -/

/-- Two places carry no override, or first overrides that show the same list. -/
inductive SameOverride (engine : InferenceEngine) (left right : List Annotation) : Prop
  | absent : (∀ tag ∈ left, engine.overrideType ≠ some tag.typeName) →
      (∀ tag ∈ right, engine.overrideType ≠ some tag.typeName) → SameOverride engine left right
  | listed {tag tag' : Annotation} : engine.FirstOverride left tag →
      engine.FirstOverride right tag' → tag.SameList tag' → SameOverride engine left right

/-- Two methods agree on all that inference reads of a method. -/
structure SameMethod (engine : InferenceEngine) (left right : Method) : Prop where
  name : left.name = right.name
  parameterTypes : left.parameters.map (·.type) = right.parameters.map (·.type)
  returnType : left.returnType = right.returnType
  override : engine.SameOverride left.annotations right.annotations

/-- Two interfaces agree on all that inference reads of an interface.  Their methods
do not matter if they have a list of their own. -/
structure SameInput (engine : InferenceEngine) (left right : Interface) : Prop where
  qualifiedName : left.qualifiedName = right.qualifiedName
  override : engine.SameOverride left.annotations right.annotations
  methods : (∃ tag, engine.FirstOverride left.annotations tag) ∨
    List.Forall₂ engine.SameMethod left.methods right.methods

/-- Where overrides are the same, either there is none or the same list is read. -/
theorem SameOverride.cases {left right : List Annotation}
    (same : engine.SameOverride left right) :
    (engine.overrideOn? left = none ∧ engine.overrideOn? right = none) ∨
      ∃ tag tag', engine.overrideOn? left = some tag ∧ engine.overrideOn? right = some tag' ∧
        FieldList.carriedBy engine.resolver tag = FieldList.carriedBy engine.resolver tag' := by
  cases same with
  | absent none none' =>
      exact .inl ⟨overrideOn?_eq_none_iff.2 none, overrideOn?_eq_none_iff.2 none'⟩
  | @listed tag tag' first first' sameList =>
      have sameType : tag.typeName = tag'.typeName :=
        Option.some.inj (first.1.symm.trans first'.1)
      exact .inr ⟨tag, tag', overrideOn?_eq_some_iff.2 first, overrideOn?_eq_some_iff.2 first',
        sameList.carriedBy_eq sameType engine.resolver⟩

/-! ## Steps -/

theorem contributeField_congr (interface : InterfaceName) (fields : FieldMapping)
    (left right : Method) (field : ImpliedField) :
    (contributeField interface fields left field).fields =
        (contributeField interface fields right field).fields ∧
      (contributeField interface fields left field).events.filterMap (·.diagnostic?) =
        (contributeField interface fields right field).events.filterMap (·.diagnostic?) := by
  refine ⟨rfl, ?_⟩
  simp only [contributeField]
  cases (fields.insertInferred field.name field.type).1 <;> rfl

/-- Methods that agree fail alike, or contribute the same mapping and the same
warnings; only the verdicts name the one method or the other. -/
theorem SameMethod.contribute_cases {left right : Method} (same : engine.SameMethod left right)
    (interface : InterfaceName) (fields : FieldMapping) :
    (∃ error, engine.contribute interface fields left = .error error ∧
      engine.contribute interface fields right = .error error) ∨
    ∃ contribution contribution', engine.contribute interface fields left = .ok contribution ∧
      engine.contribute interface fields right = .ok contribution' ∧
      contribution.fields = contribution'.fields ∧
      contribution.events.filterMap (·.diagnostic?) =
        contribution'.events.filterMap (·.diagnostic?) := by
  simp only [contribute]
  rcases same.override.cases with ⟨absent, absent'⟩ | ⟨tag, tag', first, first', sameList⟩
  · have sameSignature := Method.signature_congr same.name same.parameterTypes
    have sameField := Method.impliedField?_congr same.name same.parameterTypes same.returnType
    simp only [absent, absent', sameSignature, sameField]
    cases right.impliedField? with
    | none => exact .inr ⟨_, _, rfl, rfl, rfl, rfl⟩
    | some field =>
        exact .inr ⟨_, _, rfl, rfl, contributeField_congr interface fields left right field⟩
  · simp only [first, first', sameList]
    cases FieldList.carriedBy engine.resolver tag' with
    | error error => exact .inl ⟨error, rfl, rfl⟩
    | ok listed => exact .inr ⟨_, _, rfl, rfl, rfl, rfl⟩

/-! ## Runs -/

theorem diagnostics_after (events : List InferenceEvent) (run : InferenceRun) :
    (run.after events).diagnostics = events.filterMap (·.diagnostic?) ++ run.diagnostics :=
  List.filterMap_append

/-- Methods that agree one by one lead to the same result with the same warnings. -/
theorem inferMethods_eq_of_sameMethod {left right : List Method}
    (same : List.Forall₂ engine.SameMethod left right) (interface : InterfaceName)
    (fields : FieldMapping) :
    (engine.inferMethods interface fields left).result =
        (engine.inferMethods interface fields right).result ∧
      (engine.inferMethods interface fields left).diagnostics =
        (engine.inferMethods interface fields right).diagnostics := by
  induction same generalizing fields with
  | nil => exact ⟨rfl, rfl⟩
  | @cons method method' left right sameFirst _ ih =>
      rcases sameFirst.contribute_cases interface fields with
        ⟨error, fails, fails'⟩ |
          ⟨contribution, contribution', gives, gives', sameFields, sameWarnings⟩
      · simp only [inferMethods, fails, fails', and_self]
      · obtain ⟨sameResult, sameLater⟩ := ih contribution'.fields
        constructor
        · simp only [inferMethods, gives, gives', sameFields]
          exact sameResult
        · simp only [inferMethods, gives, gives', sameFields, diagnostics_after, sameWarnings,
            sameLater]

/-- Without overrides, the resolver is never asked. -/
theorem ListFree.inferMethods_resolver {methods : List Method} (free : engine.ListFree methods)
    (resolver : Resolver) (interface : InterfaceName) (fields : FieldMapping) :
    { engine with resolver }.inferMethods interface fields methods =
      engine.inferMethods interface fields methods := by
  induction methods generalizing fields with
  | nil => rfl
  | cons method rest ih =>
      obtain ⟨unlisted, freeRest⟩ := List.forall_mem_cons.1 free
      have sameContribution : { engine with resolver }.contribute interface fields method =
          engine.contribute interface fields method := by
        have unlisted' : { engine with resolver }.overrideOn? method.annotations = none := unlisted
        simp only [contribute, unlisted, unlisted']
      simp only [inferMethods, sameContribution, ih freeRest]

theorem NoOverride.infer_resolver {interface : Interface} (free : engine.NoOverride interface)
    (resolver : Resolver) :
    { engine with resolver }.infer interface = engine.infer interface := by
  have unlisted := overrideOn?_eq_none_iff.2 free.1
  have unlisted' : { engine with resolver }.overrideOn? interface.annotations = none := unlisted
  rw [infer_eq_inferMethods unlisted, infer_eq_inferMethods unlisted',
    free.listFree.inferMethods_resolver]

theorem noOverride_of_disabled {overrideType : Option String}
    (disabled : overrideType = none ∨ overrideType = some "") (resolver : Resolver)
    (interface : Interface) : (configured overrideType resolver).NoOverride interface :=
  ⟨overrideOn?_eq_none_iff.1 (overrideOn?_eq_none_of_disabled disabled resolver _),
    fun _ _ => overrideOn?_eq_none_iff.1 (overrideOn?_eq_none_of_disabled disabled resolver _)⟩

/-- Inference reads nothing else.

* Interfaces that agree on what is read of them have the same result, be it an error
  or a mapping, and the same warnings.
* Where no override annotation applies, or overrides are turned off, the whole run is
  the same with every resolver. -/
theorem infer_reads (engine : InferenceEngine) :
    (∀ left right, engine.SameInput left right →
      (engine.infer left).result = (engine.infer right).result ∧
      (engine.infer left).diagnostics = (engine.infer right).diagnostics) ∧
    (∀ interface resolver, engine.NoOverride interface →
      { engine with resolver }.infer interface = engine.infer interface) ∧
    ∀ overrideType resolver resolver' interface, overrideType = none ∨ overrideType = some "" →
      (configured overrideType resolver).infer interface =
        (configured overrideType resolver').infer interface := by
  refine ⟨?same, fun interface resolver free => free.infer_resolver resolver, ?disabled⟩
  case same =>
    intro left right same
    rcases same.override.cases with ⟨absent, absent'⟩ | ⟨tag, tag', first, first', sameList⟩
    · have methods : List.Forall₂ engine.SameMethod left.methods right.methods := by
        refine same.methods.resolve_left ?_
        rintro ⟨tag, first⟩
        rw [overrideOn?_eq_some_iff.2 first] at absent
        cases absent
      rw [infer_eq_inferMethods absent, infer_eq_inferMethods absent', same.qualifiedName]
      exact inferMethods_eq_of_sameMethod methods right.qualifiedName .empty
    · rw [infer_result_of_override first, infer_result_of_override first',
        infer_diagnostics_of_override first, infer_diagnostics_of_override first']
      exact ⟨sameList, rfl⟩
  case disabled =>
    intro overrideType resolver resolver' interface disabled
    exact (noOverride_of_disabled disabled resolver' interface).infer_resolver resolver

/-- The samples in disguise give the fields and the warnings of the samples. -/
theorem infer_reads_sample :
    (Sample.engine.infer Sample.relisted).result = .ok (.ofList [(Sample.id, .plain "Long")]) ∧
    (Sample.engine.infer Sample.disguised).result =
      .ok (.ofList [(Sample.foo, .plain "Date"), (Sample.bar, .plain "Name")]) ∧
    (Sample.engine.infer Sample.disguised).diagnostics =
      [.conflictingTypes Sample.mixed.qualifiedName Sample.foo (.plain "Int") (.plain "Long"),
        .unknownMethod Sample.mixed.qualifiedName "move(Int, Int)"] ∧
    { Sample.engine with resolver := .parsing }.infer Sample.disputed =
      Sample.engine.infer Sample.disputed ∧
    (configured (some "") .parsing).infer Sample.spoiled =
      (configured (some "") Sample.engine.resolver).infer Sample.spoiled := by
  have first : Sample.engine.FirstOverride Sample.listed.annotations
      (Sample.listing ["id:Long"]) := ⟨rfl, [.bare "Event"], [], rfl, by decide⟩
  have alone : Sample.engine.FirstOverride Sample.relisted.annotations Sample.listingAlone :=
    ⟨rfl, [], [], rfl, by simp⟩
  have relisted : Sample.engine.SameInput Sample.listed Sample.relisted :=
    ⟨rfl, .listed first alone (.texts rfl rfl rfl rfl), .inl ⟨_, first⟩⟩
  have methods : List.Forall₂ Sample.engine.SameMethod Sample.mixed.methods
      Sample.disguised.methods := by
    refine .cons ⟨rfl, rfl, rfl, ?getter⟩ (.cons ⟨rfl, rfl, rfl, ?setter⟩
      (.cons ⟨rfl, rfl, rfl, ?lister⟩ (.cons ⟨rfl, rfl, rfl, ?mover⟩ .nil)))
    case getter =>
      exact .absent (by simp [Sample.getter])
        (by simp [Sample.getter, Method.annotate, Sample.engine, Annotation.bare])
    case setter => exact .absent (by simp [Sample.setter]) (by simp [Sample.setter])
    case lister =>
      exact .listed ⟨rfl, [], [], rfl, by simp⟩ ⟨rfl, [], [Sample.listing ["id"]], rfl, by simp⟩
        (.texts rfl rfl rfl rfl)
    case mover => exact .absent (by simp [Sample.mover]) (by simp [Sample.mover])
  have disguised : Sample.engine.SameInput Sample.mixed Sample.disguised :=
    ⟨rfl, .absent (by simp [Sample.mixed])
      (by simp [Sample.disguised, Sample.engine, Annotation.bare]), .inr methods⟩
  obtain ⟨same, resolved, disabled⟩ := infer_reads Sample.engine
  obtain ⟨relistedResult, -⟩ := same _ _ relisted
  obtain ⟨disguisedResult, disguisedWarnings⟩ := same _ _ disguised
  refine ⟨?_, ?_, ?_, resolved _ _ noOverride_disputed, disabled _ _ _ _ (.inr rfl)⟩
  · rw [← relistedResult]
    decide +kernel
  · rw [← disguisedResult]
    decide +kernel
  · rw [← disguisedWarnings]
    decide +kernel

end InferenceEngine

end EventFields

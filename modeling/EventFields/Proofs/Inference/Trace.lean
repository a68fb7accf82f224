import EventFields.Proofs.Inference.Steps

/-!
# The trace of a run

The verdicts of a run tell all that it did.  Its events are those of its
verdicts, one after the other, whether it succeeds or not; hence its warnings,
and when they are raised, can be read off the verdicts.  If the run succeeds,
replaying the verdicts rebuilds its mapping.
-/

namespace EventFields

/-! ## Warnings and verdicts among events -/

namespace Verdict

variable {interface : InterfaceName}

theorem isSome_diagnostic? (verdict : Verdict) :
    (verdict.diagnostic? interface).isSome = verdict.warns := by
  cases verdict with
  | inferred method field outcome => cases outcome <;> rfl
  | _ => rfl

theorem filterMap_verdict?_events (verdict : Verdict) :
    (verdict.events interface).filterMap (·.verdict?) = [verdict] := by
  simp only [events]
  cases verdict.diagnostic? interface <;> rfl

theorem filterMap_diagnostic?_events (verdict : Verdict) :
    (verdict.events interface).filterMap (·.diagnostic?) =
      (verdict.diagnostic? interface).toList := by
  simp only [events]
  cases verdict.diagnostic? interface <;> rfl

theorem filterMap_verdict?_flatMap (verdicts : List Verdict) :
    (verdicts.flatMap (·.events interface)).filterMap (·.verdict?) = verdicts := by
  induction verdicts with
  | nil => rfl
  | cons verdict rest ih =>
      rw [List.flatMap_cons, List.filterMap_append, filterMap_verdict?_events, ih]
      rfl

theorem filterMap_diagnostic?_flatMap (verdicts : List Verdict) :
    (verdicts.flatMap (·.events interface)).filterMap (·.diagnostic?) =
      verdicts.filterMap (·.diagnostic? interface) := by
  induction verdicts with
  | nil => rfl
  | cons verdict rest ih =>
      rw [List.flatMap_cons, List.filterMap_append, filterMap_diagnostic?_events, ih,
        List.filterMap_cons]
      cases verdict.diagnostic? interface <;> rfl

theorem countWarnings_events_append (warnings : Nat) (verdict : Verdict)
    (rest : List InferenceEvent) :
    InferenceRun.countWarnings warnings (verdict.events interface ++ rest) =
      (verdict, warnings + verdict.warns.toNat) ::
        InferenceRun.countWarnings (warnings + verdict.warns.toNat) rest := by
  rw [← isSome_diagnostic? verdict]
  simp only [events]
  cases verdict.diagnostic? interface <;> rfl

/-- A verdict is reported after the warnings of the verdicts before it and its own. -/
theorem eq_of_countWarnings {verdicts : List Verdict} {warnings count : Nat} {verdict : Verdict}
    {earlier later : List (Verdict × Nat)}
    (split : InferenceRun.countWarnings warnings (verdicts.flatMap (·.events interface)) =
      earlier ++ (verdict, count) :: later) :
    count = warnings + (earlier.map Prod.fst ++ [verdict]).countP (·.warns) := by
  -- The counter has passed the warnings of the verdicts that are gone.
  induction verdicts generalizing warnings earlier with
  | nil => simp [InferenceRun.countWarnings] at split
  | cons first rest ih =>
      rw [List.flatMap_cons, countWarnings_events_append] at split
      cases earlier with
      | nil =>
          obtain ⟨⟨rfl, rfl⟩, -⟩ := by simpa using split
          cases warned : first.warns <;> simp [warned]
      | cons entry earlier =>
          obtain ⟨rfl, tailSplit⟩ := List.cons.inj split
          rw [ih tailSplit]
          cases warned : first.warns <;> simp [warned]
          omega

end Verdict

namespace InferenceRun

theorem map_fst_countWarnings (warnings : Nat) (events : List InferenceEvent) :
    (countWarnings warnings events).map Prod.fst = events.filterMap (·.verdict?) := by
  induction events generalizing warnings with
  | nil => rfl
  | cons event rest ih =>
      cases event with
      | warned diagnostic => exact ih (warnings + 1)
      | decided verdict => exact congrArg (verdict :: ·) (ih warnings)

end InferenceRun

/-! ## Steps -/

namespace InferenceEngine

variable {engine : InferenceEngine}

theorem Explains.method?_eq {fields : FieldMapping} {method : Method} {verdict : Verdict}
    (explains : engine.Explains fields method verdict) : verdict.method? = some method := by
  cases explains <;> rfl

/-- Steps have one verdict for each method, in order. -/
theorem Steps.map_method? {fields final : FieldMapping} {methods : List Method}
    {verdicts : List Verdict} (steps : engine.Steps fields methods verdicts final) :
    verdicts.map Verdict.method? = methods.map some := by
  induction steps with
  | nil => rfl
  | cons explains _ ih => rw [List.map_cons, List.map_cons, explains.method?_eq, ih]

/-- Replaying the verdicts of steps leads to where the steps lead. -/
theorem Steps.foldl_replayOn {fields final : FieldMapping} {methods : List Method}
    {verdicts : List Verdict} (steps : engine.Steps fields methods verdicts final) :
    verdicts.foldl Verdict.replayOn fields = final := by
  induction steps with
  | nil => rfl
  | cons _ _ ih => exact ih

/-- Each verdict of steps is right for the mapping that those before it build. -/
theorem Steps.exists_explains {fields final : FieldMapping} {methods : List Method}
    {earlier later : List Verdict} {verdict : Verdict}
    (steps : engine.Steps fields methods (earlier ++ verdict :: later) final) :
    ∃ method, engine.Explains (earlier.foldl Verdict.replayOn fields) method verdict := by
  induction earlier generalizing fields methods with
  | nil =>
      cases steps with
      | cons explains _ => exact ⟨_, explains⟩
  | cons first earlier ih =>
      cases steps with
      | cons _ steps => exact ih steps

theorem Explains.outcome_eq {fields : FieldMapping} {method method' : Method}
    {field : ImpliedField} {outcome : FieldMapping.Outcome}
    (explains : engine.Explains fields method (.inferred method' field outcome)) :
    outcome = fields.outcome field := by
  cases explains
  rfl

/-! ## Whole runs -/

theorem flatMap_events_skipped (interface : InterfaceName) (methods : List Method) :
    (methods.map Verdict.skipped).flatMap (·.events interface) =
      methods.map fun method => .decided (.skipped method) := by
  induction methods with
  | nil => rfl
  | cons method rest ih =>
      rw [List.map_cons, List.flatMap_cons, ih]
      rfl

theorem infer_events_of_override {interface : Interface} {tag : Annotation}
    {fields : FieldMapping}
    (overridden : engine.overrideOn? interface.annotations = some tag)
    (carried : FieldList.carriedBy engine.resolver tag = .ok fields) :
    (engine.infer interface).events =
      (Verdict.explicit tag fields :: interface.methods.map .skipped).flatMap
        (·.events interface.qualifiedName) := by
  simp only [infer, overridden, carried]
  rw [List.flatMap_cons, flatMap_events_skipped]
  rfl

/-- The events of every run, also of one that fails, are those of verdicts. -/
theorem exists_infer_events (engine : InferenceEngine) (interface : Interface) :
    ∃ verdicts : List Verdict, (engine.infer interface).events =
      verdicts.flatMap (·.events interface.qualifiedName) := by
  cases overridden : engine.overrideOn? interface.annotations with
  | some tag =>
      cases carried : FieldList.carriedBy engine.resolver tag with
      | ok fields => exact ⟨_, infer_events_of_override overridden carried⟩
      | error error =>
          refine ⟨[], ?_⟩
          simp [infer, overridden, carried]
  | none =>
      rw [infer_eq_inferMethods overridden]
      obtain ⟨_, verdicts, _, -, events, -⟩ :=
        engine.exists_steps interface.qualifiedName .empty interface.methods
      exact ⟨verdicts, events⟩

theorem infer_events (engine : InferenceEngine) (interface : Interface) :
    (engine.infer interface).events =
      (engine.infer interface).verdicts.flatMap (·.events interface.qualifiedName) := by
  obtain ⟨verdicts, events⟩ := engine.exists_infer_events interface
  rw [InferenceRun.verdicts, events, Verdict.filterMap_verdict?_flatMap]

/-- The verdicts of a run are a complete and faithful trace of it.

* If the interface has a list, the verdicts are the mapping read from it and one
  skipped method after the other.
* Otherwise there is one verdict for each method, in order.  Replaying them
  rebuilds the mapping, and what became of each inferred field is what the
  mapping replayed up to there implies.
* In every run, also one that fails, the warnings are those of the verdicts, and
  each verdict is reported after those of the verdicts up to and including it. -/
theorem verdicts_trace (engine : InferenceEngine) (interface : Interface) :
    (∀ tag fields, engine.overrideOn? interface.annotations = some tag →
      (engine.infer interface).result = .ok fields →
      (engine.infer interface).verdicts =
        .explicit tag fields :: interface.methods.map .skipped) ∧
    (∀ fields, engine.overrideOn? interface.annotations = none →
      (engine.infer interface).result = .ok fields →
      (engine.infer interface).verdicts.map Verdict.method? = interface.methods.map some ∧
      Verdict.replay (engine.infer interface).verdicts = fields ∧
      ∀ earlier method field outcome later, (engine.infer interface).verdicts =
        earlier ++ .inferred method field outcome :: later →
        outcome = (Verdict.replay earlier).outcome field) ∧
    (engine.infer interface).timedVerdicts.map Prod.fst = (engine.infer interface).verdicts ∧
    (∀ earlier verdict warnings later, (engine.infer interface).timedVerdicts =
      earlier ++ (verdict, warnings) :: later →
      warnings = (earlier.map Prod.fst ++ [verdict]).countP (·.warns)) ∧
    (engine.infer interface).diagnostics =
      (engine.infer interface).verdicts.filterMap (·.diagnostic? interface.qualifiedName) := by
  have events := engine.infer_events interface
  refine ⟨?explicit, ?inferred, ?timed, ?counts, ?warnings⟩
  case explicit =>
    intro tag fields overridden succeeds
    rw [infer_result_of_override overridden] at succeeds
    rw [InferenceRun.verdicts, infer_events_of_override overridden succeeds,
      Verdict.filterMap_verdict?_flatMap]
  case inferred =>
    intro fields unlisted succeeds
    rw [infer_eq_inferMethods unlisted] at succeeds ⊢
    obtain ⟨verdicts, steps, events⟩ := steps_of_result succeeds
    have same : (engine.inferMethods interface.qualifiedName .empty interface.methods).verdicts =
        verdicts := by
      rw [InferenceRun.verdicts, events, Verdict.filterMap_verdict?_flatMap]
    rw [same]
    refine ⟨steps.map_method?, steps.foldl_replayOn, ?_⟩
    rintro earlier method field outcome later rfl
    obtain ⟨_, explains⟩ := steps.exists_explains
    exact explains.outcome_eq
  case timed => exact InferenceRun.map_fst_countWarnings 0 _
  case counts =>
    intro earlier verdict warnings later split
    rw [InferenceRun.timedVerdicts, events] at split
    simpa using Verdict.eq_of_countWarnings split
  case warnings =>
    rw [InferenceRun.diagnostics, events, Verdict.filterMap_diagnostic?_flatMap]

/-- The sample interface with a list skips its methods.  In the other one, the
list has the last word on the field in conflict, and the second verdict goes
with the first warning. -/
theorem verdicts_trace_sample :
    (Sample.engine.infer Sample.listed).verdicts =
      .explicit (Sample.listing ["id:Long"]) (.ofList [(Sample.id, .plain "Long")]) ::
        Sample.listed.methods.map .skipped ∧
    Verdict.replay (Sample.engine.infer Sample.mixed).verdicts =
      .ofList [(Sample.foo, .plain "Date"), (Sample.bar, .plain "Name")] ∧
    .conflict (.plain "Int") =
      (Verdict.replay (Sample.accessors.take 1)).outcome ⟨.setter, Sample.foo, .plain "Long"⟩ ∧
    1 = Sample.accessors.countP (·.warns) := by
  obtain ⟨explicit, -⟩ := verdicts_trace Sample.engine Sample.listed
  obtain ⟨-, inferred, -, counts, -⟩ := verdicts_trace Sample.engine Sample.mixed
  have succeeds : (Sample.engine.infer Sample.mixed).result =
      .ok (.ofList [(Sample.foo, .plain "Date"), (Sample.bar, .plain "Name")]) := by decide +kernel
  have verdicts : (Sample.engine.infer Sample.mixed).verdicts =
      Sample.accessors ++ Sample.others := by decide +kernel
  have timed : (Sample.engine.infer Sample.mixed).timedVerdicts =
      Sample.accessors.zip [0, 1] ++ Sample.others.zip [1, 2] := by decide +kernel
  obtain ⟨-, replayed, outcomes⟩ := inferred _ rfl succeeds
  refine ⟨explicit _ _ ?_ ?_, replayed,
    outcomes (Sample.accessors.take 1) Sample.setter _ _ _ verdicts,
    counts (Sample.accessors.zip [0]) _ _ _ timed⟩
  · decide +kernel
  · decide +kernel

end InferenceEngine

end EventFields

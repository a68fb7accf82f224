import EventFields.Proofs.Command.Agreement
import EventFields.Proofs.Selection
import Mathlib.Data.List.Flatten

/-!
# Analyses of fewer interfaces

If a policy includes only interfaces that another one includes, the tasks of its
analysis are some of the tasks of the other one, in the same order.  Where that one
is completed, so is this one, and it finds nothing new.  It need not find the same,
though: under a name that several interfaces have, the last included one counts, and
that may be another one if fewer are included.
-/

namespace EventFields

/-- What becomes of a completed analysis of some interfaces when fewer of them are
included. -/
structure AnalysisRun.Reduces (interfaces : List Interface) (reduced full : AnalysisRun) :
    Prop where
  /-- The reduced analysis is completed too, and its numbers are not larger. -/
  completed : ∃ fewer more, reduced.result = .ok fewer ∧ full.result = .ok more ∧
    fewer.seen = more.seen ∧ fewer.analysed ≤ more.analysed ∧ fewer.warnings ≤ more.warnings
  /-- It raises some of the warnings, in the same order. -/
  diagnostics : reduced.diagnostics.Sublist full.diagnostics
  /-- It lists some of the names. -/
  names : reduced.registry.catalog.events.map (·.name) ⊆
    full.registry.catalog.events.map (·.name)
  /-- An event whose name only one of the interfaces has is the same in both catalogs. -/
  events : ∀ event ∈ reduced.registry.catalog.events,
    (∃ only, ∀ interface ∈ interfaces, interface.qualifiedName = event.name → interface = only) →
      event ∈ full.registry.catalog.events

namespace Analyzer

/-- An analyzer infers like another one, but includes only interfaces that this one
includes. -/
structure Narrows (narrow wide : Analyzer) : Prop where
  engine : narrow.engine = wide.engine
  included : ∀ interface, narrow.policy interface = true → wide.policy interface = true

/-- After a completed analysis, the mapping of the last included interface of a name is
held. -/
theorem exists_get?_run {analyzer : Analyzer} {model : SourceModel} {stats : AnalysisStats}
    {name : String} {last : Interface} (succeeds : (analyzer.run model).result = .ok stats)
    (isLast : model.lastIncluded? analyzer.policy name = some last) :
    ∃ fields, (analyzer.engine.infer last).result = .ok fields ∧
      (analyzer.run model).registry.get? name = some fields := by
  obtain ⟨member, included⟩ := List.mem_filter.1 (SourceModel.chosen_of_lastIncluded? isLast).1
  obtain ⟨fields, infers⟩ := unfailing_of_result succeeds last member included
  refine ⟨fields, infers, ?_⟩
  rw [get?_run succeeds, isLast, Option.bind_some, infers]
  rfl

end Analyzer

namespace Analyzer.Narrows

variable {narrow wide : Analyzer} (narrows : narrow.Narrows wide)

include narrows

theorem filter_sublist (interfaces : List Interface) :
    (interfaces.filter narrow.policy).Sublist (interfaces.filter wide.policy) :=
  List.monotone_filter_right interfaces narrows.included

theorem warnings_eq : narrow.warnings = wide.warnings := by
  funext interface
  rw [warnings, warnings, narrows.engine]

theorem unfailing {interfaces : List Interface} (unfailing : wide.Unfailing interfaces) :
    narrow.Unfailing interfaces := by
  intro interface member included
  rw [narrows.engine]
  exact unfailing interface member (narrows.included interface included)

/-- Where a name is found among fewer interfaces, it is found among more. -/
theorem exists_lastIncluded {model : SourceModel} {name : String} {last : Interface}
    (isLast : model.lastIncluded? narrow.policy name = some last) :
    ∃ last', model.lastIncluded? wide.policy name = some last' := by
  obtain ⟨chosen, named⟩ := SourceModel.chosen_of_lastIncluded? isLast
  rw [← named]
  exact SourceModel.exists_lastIncluded?
    ((narrows.filter_sublist model.interfaces).subset chosen)

theorem flatMap_warnings_sublist (interfaces : List Interface) :
    ((interfaces.filter narrow.policy).flatMap narrow.warnings).Sublist
      ((interfaces.filter wide.policy).flatMap wide.warnings) := by
  rw [narrows.warnings_eq]
  exact (narrows.filter_sublist interfaces).flatMap wide.warnings

/-- A completed analysis is reduced if fewer interfaces are included. -/
theorem reduces {model : SourceModel} {stats : AnalysisStats}
    (succeeds : (wide.run model).result = .ok stats) :
    AnalysisRun.Reduces model.interfaces (narrow.run model) (wide.run model) := by
  have unfailing := unfailing_of_result succeeds
  have wideRun : wide.run model = _ := analyzeInto_of_unfailing unfailing .empty
  have narrowRun : narrow.run model = _ :=
    analyzeInto_of_unfailing (narrows.unfailing unfailing) .empty
  have narrowSucceeds := congrArg AnalysisRun.result narrowRun
  have fewerWarnings := narrows.flatMap_warnings_sublist model.interfaces
  constructor
  case completed =>
    exact ⟨_, _, narrowSucceeds, congrArg AnalysisRun.result wideRun, rfl,
      (narrows.filter_sublist model.interfaces).length_le, fewerWarnings.length_le⟩
  case diagnostics =>
    rw [narrowRun, wideRun]
    exact fewerWarnings
  case names =>
    intro name among
    obtain ⟨event, listed, rfl⟩ := List.mem_map.1 among
    obtain ⟨last, isLast, -⟩ := Analyzer.exists_lastIncluded narrowSucceeds listed
    obtain ⟨last', isLast'⟩ := narrows.exists_lastIncluded isLast
    obtain ⟨fields, -, held⟩ := exists_get?_run succeeds isLast'
    rw [Registry.mem_names_iff, held]
    rfl
  case events =>
    intro event listed unique
    obtain ⟨only, isOnly⟩ := unique
    obtain ⟨last, isLast, infers⟩ := Analyzer.exists_lastIncluded narrowSucceeds listed
    obtain ⟨last', isLast'⟩ := narrows.exists_lastIncluded isLast
    obtain ⟨fields, infers', held⟩ := exists_get?_run succeeds isLast'
    obtain ⟨member, named⟩ := SourceModel.mem_of_lastIncluded? isLast
    obtain ⟨member', named'⟩ := SourceModel.mem_of_lastIncluded? isLast'
    -- Both analyses take the event from the one interface that has its name.
    have same : last = last' := by
      rw [isOnly last member (Name.ext named), isOnly last' member' (Name.ext named')]
    rw [same, narrows.engine, infers'] at infers
    rw [Registry.mem_catalog_iff, held, Except.ok.inj infers]

end Analyzer.Narrows

/-! ## A sample

Two interfaces of one name and a third one, each with its source file. -/

namespace Sample

def sources : SourceModel where
  interfaces := [
    { qualifiedName := ⟨"org.example.A", by decide⟩
      sourceFile := some "src/A"
      methods := [getter] },
    { qualifiedName := ⟨"org.example.A", by decide⟩
      sourceFile := some "src/internal/A" },
    { qualifiedName := ⟨"org.example.B", by decide⟩
      sourceFile := some "src/B"
      methods := [mover, getter] }]

/-- The selection of the interfaces with `src` in their source files. -/
def selection : Selection where
  included := [.literal ['s', 'r', 'c']]
  excluded := []

theorem parse_selection : Selection.parse ["src"] [] = .ok selection := rfl

end Sample

/-! ## Longer and rearranged lists -/

namespace Selection

/-- The analyzer that includes what is selected. -/
def analyzer (selection : Selection) (settings : AnalysisSettings) (resolver : Resolver) :
    Analyzer where
  settings := settings
  policy := selection.includes
  resolver := resolver

/-- Settings and a request give the same patterns as other ones, taken together: in any
order, repeated or not, and divided in any way. -/
structure SamePatterns (settings settings' : Settings) (request request' : AnalyzeRequest) :
    Prop where
  included : ∀ text, text ∈ settings.toInclude ∨ text ∈ request.toInclude ↔
    text ∈ settings'.toInclude ∨ text ∈ request'.toInclude
  excluded : ∀ text, text ∈ settings.toExclude ∨ text ∈ request.toExclude ↔
    text ∈ settings'.toExclude ∨ text ∈ request'.toExclude

theorem SamePatterns.makes {settings settings' : Settings} {request request' : AnalyzeRequest}
    (same : SamePatterns settings settings' request request') {selection : Selection}
    (made : parse (request.effective settings).toInclude
      (request.effective settings).toExclude = .ok selection) :
    Makes (request'.effective settings').toInclude (request'.effective settings').toExclude
        (fun selection' => selection.includes = selection'.includes) ∨
      RefusesInclude (request'.effective settings').toInclude
        (request'.effective settings').toExclude ∨
      RefusesExclude (request'.effective settings').toInclude
        (request'.effective settings').toExclude := by
  have sameIncluded : ∀ text, text ∈ (request.effective settings).toInclude ↔
      text ∈ (request'.effective settings').toInclude := by
    simpa [AnalyzeRequest.effective] using same.included
  have sameExcluded : ∀ text, text ∈ (request.effective settings).toExclude ↔
      text ∈ (request'.effective settings').toExclude := by
    simpa [AnalyzeRequest.effective] using same.excluded
  obtain ⟨validInclude, validExclude⟩ := valid_of_parse made
  have readInclude := validInclude.readable.mono fun text => (sameIncluded text).2
  have readExclude := validExclude.readable.mono fun text => (sameExcluded text).2
  cases readInclude.valid_or_refusesInclude (request'.effective settings').toExclude with
  | inr refuses => exact .inr (.inl refuses)
  | inl validInclude' =>
      cases readExclude.valid_or_refusesExclude validInclude' with
      | inr refuses => exact .inr (.inr refuses)
      | inl validExclude' =>
          left
          apply validInclude'.makes validExclude'
          intro selection' made'
          exact includes_eq made made' sameIncluded sameExcluded

/-- What longer, rearranged or otherwise divided lists of patterns change.

* With more patterns to exclude, a completed analysis is reduced.
* With more patterns to include, where there are some, all that was included still is.
* Which interfaces are included depends only on which patterns there are, in the
  settings and the request taken together.
* The one exception is the same each time: a list that has grown or been rearranged may be
  too large, and is then refused.  Lists that are only divided otherwise are not. -/
theorem analyses_of_longer_lists :
    (∀ toInclude toExclude more selection, parse toInclude toExclude = .ok selection →
      Valid more →
      Makes toInclude (toExclude ++ more) (fun narrowed =>
        ∀ settings resolver model stats,
          ((selection.analyzer settings resolver).run model).result = .ok stats →
          AnalysisRun.Reduces model.interfaces ((narrowed.analyzer settings resolver).run model)
            ((selection.analyzer settings resolver).run model)) ∨
        RefusesExclude toInclude (toExclude ++ more)) ∧
    (∀ toInclude toExclude more selection, toInclude ≠ [] →
      parse toInclude toExclude = .ok selection → Valid more →
      Makes (toInclude ++ more) toExclude (fun widened =>
        ∀ interfaces : List Interface, (interfaces.filter selection.includes).Sublist
          (interfaces.filter widened.includes)) ∨
        RefusesInclude (toInclude ++ more) toExclude) ∧
    ∀ (settings settings' : Settings) (request request' : AnalyzeRequest) (selection : Selection),
      parse (request.effective settings).toInclude (request.effective settings).toExclude =
        .ok selection →
      (SamePatterns settings settings' request request' →
        Makes (request'.effective settings').toInclude (request'.effective settings').toExclude
            (fun selection' => selection.includes = selection'.includes) ∨
          RefusesInclude (request'.effective settings').toInclude
            (request'.effective settings').toExclude ∨
          RefusesExclude (request'.effective settings').toInclude
            (request'.effective settings').toExclude) ∧
      (settings.toInclude ++ request.toInclude = settings'.toInclude ++ request'.toInclude →
        settings.toExclude ++ request.toExclude = settings'.toExclude ++ request'.toExclude →
        parse (request'.effective settings').toInclude
          (request'.effective settings').toExclude = .ok selection) := by
  refine ⟨?excluding, ?including, ?rearranging⟩
  case excluding =>
    intro toInclude toExclude more selection made validMore
    obtain ⟨validInclude, validExclude⟩ := valid_of_parse made
    have readLonger := validExclude.readable.append validMore.readable
    apply (readLonger.valid_or_refusesExclude validInclude).imp_left
    intro validLonger
    apply validInclude.makes validLonger
    intro narrowed made' settings resolver model stats succeeds
    have narrows : (narrowed.analyzer settings resolver).Narrows
        (selection.analyzer settings resolver) :=
      ⟨rfl, fun _ => includes_of_more_excluded made made' (List.subset_append_left _ _)⟩
    exact narrows.reduces succeeds
  case including =>
    intro toInclude toExclude more selection given made validMore
    obtain ⟨validInclude, validExclude⟩ := valid_of_parse made
    have readLonger := validInclude.readable.append validMore.readable
    apply (readLonger.valid_or_refusesInclude toExclude).imp_left
    intro validLonger
    apply validLonger.makes validExclude
    intro widened made' interfaces
    apply List.monotone_filter_right
    intro interface
    exact includes_of_more_included made made' given (List.subset_append_left _ _)
  case rearranging =>
    intro settings settings' request request' selection made
    constructor
    · intro same
      exact same.makes made
    · intro sameInclude sameExclude
      rw [AnalyzeRequest.effective, sameInclude, sameExclude] at made
      exact made

/-- In the sample, the internal interface is excluded, others are included, and the list is
given in another way. -/
theorem analyses_of_longer_lists_sample :
    (∃ narrowed, parse ["src"] ["internal"] = .ok narrowed ∧
      AnalysisRun.Reduces Sample.sources.interfaces
        ((narrowed.analyzer {} .parsing).run Sample.sources)
        ((Sample.selection.analyzer {} .parsing).run Sample.sources)) ∧
    (∃ widened, parse ["src", "B"] [] = .ok widened ∧
      (Sample.sources.interfaces.filter Sample.selection.includes).Sublist
        (Sample.sources.interfaces.filter widened.includes)) ∧
    ∃ selection', parse ["src", "src"] [] = .ok selection' ∧
      Sample.selection.includes = selection'.includes := by
  obtain ⟨excluding, including, rearranging⟩ := analyses_of_longer_lists
  have succeeds : ((Sample.selection.analyzer {} .parsing).run Sample.sources).result =
      .ok ⟨3, 3, 0, 1⟩ := by decide +kernel
  refine ⟨?_, ?_, ?_⟩
  · cases excluding ["src"] [] ["internal"] Sample.selection Sample.parse_selection ⟨_, rfl⟩ with
    | inl makes =>
        obtain ⟨narrowed, parsed, reduces⟩ := makes
        exact ⟨narrowed, parsed, reduces {} .parsing Sample.sources _ succeeds⟩
    | inr refuses => cases refuses.refused
  · cases including ["src"] [] ["B"] Sample.selection (by simp) Sample.parse_selection
        ⟨_, rfl⟩ with
    | inl makes =>
        obtain ⟨widened, parsed, keeps⟩ := makes
        exact ⟨widened, parsed, keeps Sample.sources.interfaces⟩
    | inr refuses => cases refuses.refused
  · have same : SamePatterns { toInclude := ["src"] } { toInclude := ["src"] }
        Sample.analysing { Sample.analysing with toInclude := ["src"] } :=
      ⟨by simp [Sample.analysing], by simp⟩
    have made := Sample.parse_selection
    rcases (rearranging { toInclude := ["src"] } { toInclude := ["src"] } Sample.analysing _
      Sample.selection made).1 same with makes | refuses | refuses
    · exact makes
    · cases refuses.refused
    · cases refuses.refused

/-- Two lists of patterns to exclude can be used, each on its own, and an analysis with the
first is completed; but the two together are refused. -/
theorem refused_when_joined :
    (∃ run stats, Sample.analysing.analyze (Sample.file Sample.distinctText)
      { toExclude := ["a{200000}"] } = .ok run ∧ run.result = .ok stats) ∧
    Valid ["a{200000}"] ∧ Valid ["b{200000}"] ∧
    AnalyzeRequest.analyze { Sample.analysing with toExclude := ["b{200000}"] }
        (Sample.file Sample.distinctText) { toExclude := ["a{200000}"] } =
      .error (.badSelection (.invalidExclude .tooLarge)) := by
  refine ⟨?_, ⟨_, rfl⟩, ⟨_, rfl⟩, rfl⟩
  refine ⟨_, ⟨2, 2, 0, 0⟩, AnalyzeRequest.analyze_eq_ok_iff.2
    ⟨⟨[], [.repetition true 200000 (some 200000) (.literal ['a'])]⟩, Sample.distinct, rfl,
      Sample.loadModel_distinct, rfl⟩, ?_⟩
  decide +kernel

end Selection

end EventFields

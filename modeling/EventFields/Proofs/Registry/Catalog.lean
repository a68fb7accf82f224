import EventFields.Proofs.Analysis.InOrder
import EventFields.Proofs.Catalog.Search
import EventFields.Proofs.Text.Encoding
import Mathlib.Data.List.Dedup

/-!
# The catalog of a history

A registry is filled in several ways: by records, made on it or behind its lock,
and by analyses.  All of them amount to a history of records, and what is known
of a registry is known of its history: what a record replaces, how many names
there are, which events the catalog lists and in which order, and what a search
in the catalog finds.
-/

namespace EventFields

namespace Registry

/-! ## Lookup -/

@[simp] theorem get?_empty (name : String) : empty.get? name = none := rfl

theorem replace_eq (registry : Registry) (name : InterfaceName) (fields : FieldMapping) :
    registry.replace name fields = (registry.get? name.text, registry.record name fields) := by
  rw [replace, SortedMap.replace_eq]
  rfl

theorem ascending_catalog (registry : Registry) : Catalog.Ascending registry.catalog.events :=
  List.pairwise_map.2 registry.events.ascending

theorem mem_catalog_iff {registry : Registry} {event : Event} :
    event ∈ registry.catalog.events ↔
      registry.get? event.name.text = some event.fields := by
  have held : (event.name, event.fields) ∈ registry.events.entries ↔
      registry.get? event.name.text = some event.fields :=
    SortedMap.mem_entries_iff
  rw [← held]
  constructor
  · intro member
    obtain ⟨entry, found, rfl⟩ := List.mem_map.1 member
    exact found
  · intro found
    exact List.mem_map.2 ⟨_, found, rfl⟩

theorem nodup_names (registry : Registry) : (registry.catalog.events.map (·.name)).Nodup := by
  rw [List.Nodup, List.pairwise_map]
  apply registry.ascending_catalog.imp
  intro earlier later before same
  rw [same] at before
  exact String.lt_irrefl _ before

theorem mem_names_iff {registry : Registry} {name : InterfaceName} :
    name ∈ registry.catalog.events.map (·.name) ↔ (registry.get? name.text).isSome := by
  rw [List.mem_map, Option.isSome_iff_exists]
  constructor
  · rintro ⟨event, member, rfl⟩
    exact ⟨event.fields, mem_catalog_iff.1 member⟩
  · rintro ⟨fields, held⟩
    exact ⟨⟨name, fields⟩, mem_catalog_iff.2 held, rfl⟩

theorem catalog_get?_eq (registry : Registry) (name : String) :
    registry.catalog.get? name =
      (registry.events.entries.find? fun entry => entry.1.text = name).map fun entry =>
        ⟨entry.1, entry.2⟩ := by
  rw [Catalog.get?, Catalog.search_eq_find? registry.ascending_catalog, catalog, List.find?_map]
  rfl

/-- The search in the catalog finds what is held under the name. -/
theorem catalog_get?_eq_some_iff {registry : Registry} {name : String} {event : Event} :
    registry.catalog.get? name = some event ↔
      event.name.text = name ∧ registry.get? name = some event.fields := by
  rw [catalog_get?_eq, Option.map_eq_some_iff]
  constructor
  · rintro ⟨entry, found, rfl⟩
    have named : entry.1.text = name := by simpa using List.find?_some found
    have held : registry.get? name = some entry.2 := congrArg (Option.map Prod.snd) found
    exact ⟨named, held⟩
  · rintro ⟨rfl, held⟩
    have entry : (event.name, event.fields) ∈ registry.events.entries :=
      SortedMap.mem_entries_iff.2 held
    exact ⟨_, (SortedMap.find?_eq_some_iff_mem registry.events.ascending).2 entry, rfl⟩

theorem isSome_catalog_get? (registry : Registry) (name : String) :
    (registry.catalog.get? name).isSome = (registry.get? name).isSome := by
  rw [catalog_get?_eq, get?, SortedMap.get?, Option.isSome_map, Option.isSome_map]
  rfl

/-! ## Histories -/

/-- Registries with the histories by which they have come about. -/
inductive Recorded : List Record → Registry → Prop
  | empty : Recorded [] .empty
  | replace {history : List Record} {registry : Registry}
      (recorded : Recorded history registry) (name : InterfaceName) (fields : FieldMapping) :
      Recorded (history ++ [(name, fields)]) (registry.replace name fields).2
  /-- A record behind the lock. -/
  | share {history : List Record} {registry : Registry}
      (recorded : Recorded history registry) (name : InterfaceName) (fields : FieldMapping) :
      Recorded (history ++ [(name, fields)])
        ((SharedRegistry.ofRegistry registry).record name fields).2.inner
  /-- An analysis that carries out its interfaces in order, up to the first failure. -/
  | inOrder {history : List Record} {registry : Registry}
      (recorded : Recorded history registry) (analyzer : Analyzer)
      (interfaces : List Interface) :
      Recorded
        (history ++ (analyzer.throughFailure (interfaces.filter analyzer.policy)).filterMap
          analyzer.recorded?)
        (analyzer.analyzeInto interfaces registry).registry
  /-- An analysis by tasks, after some of their actions. -/
  | tasks {history : List Record} {registry : Registry}
      (recorded : Recorded history registry) {analyzer : Analyzer}
      {interfaces : List Interface} (execution : Execution analyzer interfaces)
      {done rest : List TaskAction} (split : execution.actions = done ++ rest)
      (received : List Diagnostic) :
      Recorded (history ++ done.filterMap (·.record?))
        (Shared.performAll ⟨registry, received, 0⟩ done).registry

namespace Recorded

variable {history : List Record} {registry : Registry}

theorem eq_recordAll (recorded : Recorded history registry) :
    registry = Registry.empty.recordAll history := by
  induction recorded with
  | empty => rfl
  | replace _ name fields ih => simp [replace_eq, ← ih]
  | share _ name fields ih =>
      simp [SharedRegistry.record, SharedRegistry.ofRegistry, replace_eq, ← ih]
  | inOrder _ analyzer interfaces ih =>
      rw [recordAll_append, ← ih, Analyzer.analyzeInto, analyzer.analyzeAll_eq rfl]
      rfl
  | tasks _ execution split received ih =>
      rw [recordAll_append, ← ih, Shared.performAll_eq]

theorem get?_eq (recorded : Recorded history registry) (name : String) :
    registry.get? name = lastRecorded? history name := by
  rw [recorded.eq_recordAll, get?_recordAll, get?_empty, Option.or_none]

theorem isSome_get?_iff (recorded : Recorded history registry) {name : String} :
    (registry.get? name).isSome ↔ ∃ record ∈ history, record.1.text = name := by
  rw [recorded.get?_eq, Option.isSome_iff_ne_none, ne_eq, lastRecorded?_eq_none_iff]
  push Not
  rfl

/-- The catalog lists the names that have been recorded. -/
theorem mem_names_iff_mem_history (recorded : Recorded history registry) {name : InterfaceName} :
    name ∈ registry.catalog.events.map (·.name) ↔ name ∈ history.map Prod.fst := by
  rw [mem_names_iff, recorded.isSome_get?_iff, List.mem_map]
  constructor
  · intro named
    obtain ⟨record, member, named⟩ := named
    exact ⟨record, member, Name.ext named⟩
  · intro named
    obtain ⟨record, member, rfl⟩ := named
    exact ⟨record, member, rfl⟩

theorem size_eq (recorded : Recorded history registry) :
    registry.size = (history.map Prod.fst).dedup.length := by
  have names : (registry.catalog.events.map (·.name)).Perm (history.map Prod.fst).dedup := by
    rw [List.perm_ext_iff_of_nodup registry.nodup_names (List.nodup_dedup _)]
    intro name
    rw [recorded.mem_names_iff_mem_history, List.mem_dedup]
  rw [← names.length_eq]
  simp [size, SortedMap.size, catalog]

end Recorded

end Registry

/-! ## A sample -/

namespace Sample

/-- A registry after a record, one behind the lock, an analysis in order, and the
first action of an analysis by tasks. -/
def filled : Registry :=
  let first := (Registry.empty.replace mixed.qualifiedName .empty).2
  let second := ((SharedRegistry.ofRegistry first).record listed.qualifiedName .empty).2.inner
  let analysed := (analyzer.analyzeInto [mixed, hidden, revised] second).registry
  (Shared.performAll ⟨analysed, [], 0⟩
    ((Execution.inOrder analyzer [listed]).actions.take 1)).registry

/-- What has been recorded in it. -/
def history : List Registry.Record :=
  [(mixed.qualifiedName, .empty)] ++ [(listed.qualifiedName, .empty)] ++
    (analyzer.throughFailure ([mixed, hidden, revised].filter analyzer.policy)).filterMap
      analyzer.recorded? ++
    ((Execution.inOrder analyzer [listed]).actions.take 1).filterMap (·.record?)

theorem recorded : Registry.Recorded history filled :=
  (((Registry.Recorded.empty.replace mixed.qualifiedName .empty).share
    listed.qualifiedName .empty).inOrder analyzer [mixed, hidden, revised]).tasks
      (Execution.inOrder analyzer [listed]) (List.take_append_drop 1 _).symm []

end Sample

/-! ## The catalog -/

namespace Registry.Recorded

variable {history : List Record} {registry : Registry}

/-- The last record of a name counts, and the catalog lists the names in order.

* A record, also one behind the lock, returns what was last recorded under its
  name, if anything was.
* The size is the number of names.
* A snapshot, also one behind the lock, is the catalog at the end.
* The names ascend strictly, by code points as well as by bytes, and none is
  listed twice.
* The events are those whose mapping was last recorded under their name.
* The search for a name finds something exactly if the name was recorded, and
  then the event with this name and the mapping last recorded under it. -/
theorem last_write_wins (recorded : Recorded history registry) :
    (∀ (name : InterfaceName) (fields : FieldMapping),
      (registry.replace name fields).1 = lastRecorded? history name.text ∧
      ((SharedRegistry.ofRegistry registry).record name fields).1 =
        lastRecorded? history name.text) ∧
    registry.size = (history.map Prod.fst).dedup.length ∧
    registry.snapshot = registry.catalog ∧
    (SharedRegistry.ofRegistry registry).snapshot = registry.catalog ∧
    (registry.catalog.events.Pairwise fun earlier later =>
      earlier.name.text < later.name.text) ∧
    (registry.catalog.events.Pairwise fun earlier later =>
      utf8Bytes earlier.name.text < utf8Bytes later.name.text) ∧
    (registry.catalog.events.map (·.name)).Nodup ∧
    (∀ event, event ∈ registry.catalog.events ↔
      lastRecorded? history event.name.text = some event.fields) ∧
    ∀ name,
      ((registry.catalog.get? name).isSome ↔ ∃ record ∈ history, record.1.text = name) ∧
      ∀ event, registry.catalog.get? name = some event ↔
        event.name.text = name ∧ lastRecorded? history name = some event.fields := by
  have returned (name : InterfaceName) (fields : FieldMapping) :
      (registry.replace name fields).1 = lastRecorded? history name.text := by
    rw [replace_eq, recorded.get?_eq]
  have ascending := registry.ascending_catalog
  refine ⟨fun name fields => ⟨returned name fields, returned name fields⟩, recorded.size_eq,
    rfl, rfl, ascending, ?_, registry.nodup_names, ?_, ?_⟩
  · exact ascending.imp fun before => utf8Bytes_lt_iff.2 before
  · intro event
    rw [mem_catalog_iff, recorded.get?_eq]
  · intro name
    refine ⟨?_, fun event => ?_⟩
    · rw [isSome_catalog_get?, recorded.isSome_get?_iff]
    · rw [catalog_get?_eq_some_iff, recorded.get?_eq]

/-- In the sample a name is recorded, then analysed twice; the last mapping is found. -/
theorem last_write_wins_sample :
    Sample.filled.size = 2 ∧
    (Sample.filled.replace Sample.mixed.qualifiedName .empty).1 =
      lastRecorded? Sample.history "org.example.Mixed" ∧
    lastRecorded? Sample.history "org.example.Mixed" =
      (Sample.analyzer.engine.infer Sample.revised).result.toOption ∧
    (Sample.filled.catalog.get? "org.example.Mixed").isSome ∧
    ¬ (Sample.filled.catalog.get? "org.example.Broken").isSome := by
  obtain ⟨returned, size, -, -, -, -, -, -, found⟩ := last_write_wins Sample.recorded
  refine ⟨?_, (returned Sample.mixed.qualifiedName .empty).1, ?_, ?_, ?_⟩
  · rw [size]
    decide +kernel
  · decide +kernel
  · rw [(found "org.example.Mixed").1]
    decide +kernel
  · rw [(found "org.example.Broken").1]
    decide +kernel

end Registry.Recorded

end EventFields

import EventFields.Catalog
import EventFields.Proofs.SortedMap

/-!
# Histories of records

Recording replaces what was recorded before.  After a history of records a
registry therefore holds, under each name, the mapping that was last recorded
under it or, if there is none, what it held at first.  The order of two records
matters only if they give different mappings to one name.
-/

namespace EventFields.Registry

/-- A mapping that is recorded, with its name. -/
abbrev Record := InterfaceName × FieldMapping

/-- The registry after records in order. -/
def recordAll (registry : Registry) (records : List Record) : Registry :=
  records.foldl (fun recorded record => recorded.record record.1 record.2) registry

/-- The mapping that was last recorded under a name. -/
def lastRecorded? (records : List Record) (name : String) : Option FieldMapping :=
  (records.reverse.find? fun record => record.1.text = name).map Prod.snd

/-- A name always goes with one mapping. -/
def Agree (records : List Record) : Prop :=
  ∀ first ∈ records, ∀ second ∈ records, first.1 = second.1 → first.2 = second.2

/-! ## One record -/

theorem get?_record (registry : Registry) (name : InterfaceName) (fields : FieldMapping)
    (sought : String) :
    (registry.record name fields).get? sought =
      if name.text = sought then some fields else registry.get? sought :=
  SortedMap.get?_insert registry.events name fields sought

theorem eq_of_get? {left right : Registry}
    (same : ∀ name, left.get? name = right.get? name) : left = right := by
  cases left with
  | mk leftEvents =>
    cases right with
    | mk rightEvents =>
      have eventsEqual : leftEvents = rightEvents := SortedMap.eq_of_get? same
      rw [eventsEqual]

theorem eq_of_catalog {left right : Registry} (same : left.catalog = right.catalog) :
    left = right := by
  have eventsEqual := congrArg Catalog.events same
  have entriesEqual : left.events.entries = right.events.entries := by
    apply (List.map_inj_right ?_).1 eventsEqual
    intro entry other equal
    exact Prod.ext (congrArg Event.name equal) (congrArg Event.fields equal)
  cases left
  cases right
  exact congrArg Registry.mk (SortedMap.ext entriesEqual)

/-- Records commute unless they give different mappings to one name. -/
theorem record_comm (registry : Registry) {first second : Record}
    (agree : first.1 = second.1 → first.2 = second.2) :
    (registry.record first.1 first.2).record second.1 second.2 =
      (registry.record second.1 second.2).record first.1 first.2 := by
  apply eq_of_get?
  intro name
  simp only [get?_record]
  by_cases isFirst : first.1.text = name
  · by_cases isSecond : second.1.text = name
    · have sameFields := agree (Name.ext (isFirst.trans isSecond.symm))
      simp [isFirst, isSecond, sameFields]
    · simp [isFirst, isSecond]
  · simp [isFirst]

/-! ## Many records -/

@[simp] theorem recordAll_nil (registry : Registry) : registry.recordAll [] = registry := rfl

@[simp] theorem recordAll_cons (registry : Registry) (record : Record) (records : List Record) :
    registry.recordAll (record :: records) =
      (registry.record record.1 record.2).recordAll records := rfl

@[simp] theorem recordAll_append (registry : Registry) (earlier later : List Record) :
    registry.recordAll (earlier ++ later) = (registry.recordAll earlier).recordAll later :=
  List.foldl_append

theorem lastRecorded?_append (earlier later : List Record) (name : String) :
    lastRecorded? (earlier ++ later) name =
      (lastRecorded? later name).or (lastRecorded? earlier name) := by
  simp only [lastRecorded?, List.reverse_append, List.find?_append]
  cases later.reverse.find? fun record => record.1.text = name <;> rfl

/-- The last record of a name decides; without one, nothing changes. -/
theorem get?_recordAll (registry : Registry) (records : List Record) (name : String) :
    (registry.recordAll records).get? name =
      (lastRecorded? records name).or (registry.get? name) := by
  induction records generalizing registry with
  | nil => rfl
  | cons record rest ih =>
      have split := lastRecorded?_append [record] rest name
      rw [List.singleton_append] at split
      rw [recordAll_cons, ih, get?_record, split, Option.or_assoc]
      by_cases same : record.1.text = name <;> simp [lastRecorded?, same]

theorem lastRecorded?_eq_none_iff {records : List Record} {name : String} :
    lastRecorded? records name = none ↔ ∀ record ∈ records, record.1.text ≠ name := by
  simp [lastRecorded?]

/-- A record is the last one of its name if none of those after it has the name. -/
theorem lastRecorded?_of_last {earlier later : List Record} {name : InterfaceName}
    {fields : FieldMapping} (last : ∀ record ∈ later, record.1 ≠ name) :
    lastRecorded? (earlier ++ (name, fields) :: later) name.text = some fields := by
  have unrecorded : lastRecorded? later name.text = none := by
    rw [lastRecorded?_eq_none_iff]
    intro record member same
    exact last record member (Name.ext same)
  rw [List.append_cons, lastRecorded?_append, unrecorded, Option.none_or,
    lastRecorded?_append]
  simp [lastRecorded?]

theorem mem_of_lastRecorded? {records : List Record} {name : String} {fields : FieldMapping}
    (recorded : lastRecorded? records name = some fields) :
    ∃ record ∈ records, record.1.text = name ∧ record.2 = fields := by
  obtain ⟨record, found, sameFields⟩ := Option.map_eq_some_iff.1 recorded
  have member := List.mem_reverse.1 (List.mem_of_find?_eq_some found)
  have sameName : record.1.text = name := by simpa using List.find?_some found
  exact ⟨record, member, sameName, sameFields⟩

/-- A mapping comes from a record or was there before. -/
theorem get?_recordAll_cases {registry : Registry} {records : List Record} {name : String}
    {fields : FieldMapping} (held : (registry.recordAll records).get? name = some fields) :
    registry.get? name = some fields ∨
      ∃ record ∈ records, record.1.text = name ∧ record.2 = fields := by
  rw [get?_recordAll] at held
  cases recorded : lastRecorded? records name with
  | none =>
      rw [recorded, Option.none_or] at held
      exact .inl held
  | some mapping =>
      rw [recorded, Option.some_or, Option.some.injEq] at held
      subst held
      exact .inr (mem_of_lastRecorded? recorded)

/-- No name is lost. -/
theorem isSome_get?_recordAll {registry : Registry} (records : List Record) {name : String}
    (held : (registry.get? name).isSome) : ((registry.recordAll records).get? name).isSome := by
  rw [get?_recordAll]
  cases lastRecorded? records name with
  | none => exact held
  | some mapping => rfl

/-- The order of records does not matter if they agree. -/
theorem recordAll_eq_of_perm (registry : Registry) {left right : List Record}
    (perm : left.Perm right) (agree : Agree left) :
    registry.recordAll left = registry.recordAll right := by
  apply perm.foldl_eq'
  intro first firstMember second secondMember recorded
  exact recorded.record_comm (agree first firstMember second secondMember)

end EventFields.Registry

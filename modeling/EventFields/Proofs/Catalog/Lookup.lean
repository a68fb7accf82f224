import EventFields.Proofs.Catalog.RoundTrip
import EventFields.Proofs.Registry.Catalog

/-!
# Which catalogs can be searched

The search relies on ascending names, but a catalog that is read has its events in the
order in which they are written.  If no name is written twice, there is no other order in
which the search finds every event: each comparison sends the events before the middle to
one side and the others to the other side, and the search for an event goes astray unless
it stands on the side to which its own name is sent.
-/

namespace EventFields.Catalog

variable {events : List Event} {name : String}

/-! ## Steps of a search -/

/-- The event in the middle, which tells with which half a search goes on. -/
structure IsMiddle (events : List Event) (middle : Event) : Prop where
  atMiddle : events[events.length / 2]? = some middle
  search_eq : ∀ name, search name events =
    if name < middle.name.text then search name (events.take (events.length - events.length / 2))
    else search name (events.drop (events.length / 2))

theorem exists_isMiddle (several : 1 < events.length) : ∃ middle, IsMiddle events middle := by
  have within : events.length / 2 < events.length := by omega
  refine ⟨events[events.length / 2], List.getElem?_eq_getElem within, ?_⟩
  intro name
  match events with
  | [] => simp at several
  | [_] => simp at several
  | first :: second :: rest => rw [search, List.getElem?_eq_getElem within]

/-- What is found is one of the events, and has the name that was sought. -/
theorem mem_of_search {found : Event} (finds : search name events = some found) :
    found ∈ events ∧ found.name.text = name := by
  fun_induction search name events with
  | case1 => cases finds
  | case2 only same =>
      cases finds
      exact ⟨List.mem_singleton_self _, same⟩
  | case3 only differs => cases finds
  | case4 first second rest all half missing => cases finds
  | case5 first second rest all half middle atMiddle before ih =>
      obtain ⟨member, named⟩ := ih finds
      exact ⟨List.mem_of_mem_take member, named⟩
  | case6 first second rest all half middle atMiddle notBefore ih =>
      obtain ⟨member, named⟩ := ih finds
      exact ⟨List.mem_of_mem_drop member, named⟩

/-- The last event is found if no other one has a greater name. -/
theorem search_last {events : List Event} {last : Event} (atEnd : events.getLast? = some last)
    (greatest : ∀ event ∈ events, ¬ last.name.text < event.name.text) :
    search last.name.text events = some last := by
  by_cases several : 1 < events.length
  · obtain ⟨middle, isMiddle⟩ := exists_isMiddle several
    have notBefore := greatest middle (List.mem_of_getElem? isMiddle.atMiddle)
    rw [isMiddle.search_eq, if_neg notBefore]
    apply search_last
    · rw [List.getLast?_drop, if_neg (by omega), atEnd]
    · intro event member
      exact greatest event (List.mem_of_mem_drop member)
  · match events with
    | [] => cases atEnd
    | [only] =>
        cases atEnd
        simp [search]
    | first :: second :: rest => simp at several
termination_by events.length
decreasing_by
  simp only [List.length_drop]
  omega

/-! ## Searches that find every event -/

/-- Each event is found under its name. -/
def FindsAll (events : List Event) : Prop :=
  ∀ event ∈ events, search event.name.text events = some event

theorem Ascending.findsAll (ascending : Ascending events) : FindsAll events := by
  intro event member
  rw [search_eq_find? ascending, List.find?_eq_some_iff_append]
  obtain ⟨before, after, split⟩ := List.append_of_mem member
  refine ⟨by simp, before, after, split, ?_⟩
  intro earlier among
  rw [split, Ascending, List.pairwise_append] at ascending
  have less := ascending.2.2 earlier among event List.mem_cons_self
  simpa using (String.ne_of_lt less)

/-- Events with different names stand in different halves. -/
theorem name_ne_of_mem_take_drop (nodup : (events.map (·.name)).Nodup) {count : Nat}
    {event other : Event} (left : event ∈ events.take count) (right : other ∈ events.drop count) :
    event.name ≠ other.name := by
  rw [← List.take_append_drop count events, List.map_append, List.nodup_append] at nodup
  exact nodup.2.2 _ (List.mem_map_of_mem left) _ (List.mem_map_of_mem right)

namespace IsMiddle

variable {middle event : Event} (isMiddle : IsMiddle events middle)

include isMiddle

/-- The left half ends before the middle or with it. -/
theorem mem_take_cases (member : event ∈ events.take (events.length - events.length / 2)) :
    event ∈ events.take (events.length / 2) ∨ event = middle := by
  have within : event ∈ events.take (events.length / 2 + 1) :=
    List.take_subset_take_left events (by omega) member
  rw [List.take_add_one, isMiddle.atMiddle, List.mem_append] at within
  simpa using within

variable (nodup : (events.map (·.name)).Nodup) (findsAll : FindsAll events)

include nodup findsAll

/-- The search for an event before the middle goes to the left. -/
theorem before (left : event ∈ events.take (events.length / 2)) :
    event.name.text < middle.name.text := by
  by_contra notBefore
  have found := findsAll event (List.mem_of_mem_take left)
  rw [isMiddle.search_eq, if_neg notBefore] at found
  exact name_ne_of_mem_take_drop nodup left (mem_of_search found).1 rfl

/-- The search for an event from the middle on goes to the right. -/
theorem not_before (right : event ∈ events.drop (events.length / 2)) :
    ¬ event.name.text < middle.name.text := by
  intro before
  have found := findsAll event (List.mem_of_mem_drop right)
  rw [isMiddle.search_eq, if_pos before] at found
  rcases isMiddle.mem_take_cases (mem_of_search found).1 with left | same
  · exact name_ne_of_mem_take_drop nodup left right rfl
  · rw [same] at before
    exact String.lt_irrefl _ before

/-- If every event is found, those of the left half are found in it. -/
theorem findsAll_take : FindsAll (events.take (events.length - events.length / 2)) := by
  have before (earlier : Event) (left : earlier ∈ events.take (events.length / 2)) :
      earlier.name.text < middle.name.text := isMiddle.before nodup findsAll left
  intro event member
  rcases isMiddle.mem_take_cases member with left | same
  · have found := findsAll event (List.mem_of_mem_take left)
    rwa [isMiddle.search_eq, if_pos (before event left)] at found
  · -- The middle is sent to the right, but in the left half it is the last event.
    have excluded : middle ∉ events.take (events.length / 2) := by
      intro left
      exact String.lt_irrefl _ (before middle left)
    have odd : events.length - events.length / 2 = events.length / 2 + 1 := by
      by_contra even
      have halves : events.length - events.length / 2 = events.length / 2 := by omega
      rw [halves, same] at member
      exact excluded member
    rw [same]
    apply search_last
    · rw [odd, List.take_add_one, isMiddle.atMiddle]
      simp
    · intro other among
      rcases isMiddle.mem_take_cases among with left | same
      · exact String.not_lt.2 (Std.le_of_lt (before other left))
      · rw [same]
        exact String.lt_irrefl _

/-- If every event is found, those of the right half are found in it. -/
theorem findsAll_drop : FindsAll (events.drop (events.length / 2)) := by
  intro event member
  have found := findsAll event (List.mem_of_mem_drop member)
  rwa [isMiddle.search_eq, if_neg (isMiddle.not_before nodup findsAll member)] at found

end IsMiddle

/-- Among events with different names, only ascending ones are all found. -/
theorem FindsAll.ascending {events : List Event} (nodup : (events.map (·.name)).Nodup)
    (findsAll : FindsAll events) : Ascending events := by
  by_cases several : 1 < events.length
  · obtain ⟨middle, isMiddle⟩ := exists_isMiddle several
    have nodupOf (part : List Event) (sublist : part.Sublist events) :
        (part.map (·.name)).Nodup := nodup.sublist (sublist.map _)
    have left : Ascending (events.take (events.length - events.length / 2)) := by
      apply FindsAll.ascending (nodupOf _ (List.take_sublist _ _))
      exact isMiddle.findsAll_take nodup findsAll
    have right : Ascending (events.drop (events.length / 2)) := by
      apply FindsAll.ascending (nodupOf _ (List.drop_sublist _ _))
      exact isMiddle.findsAll_drop nodup findsAll
    have shorter : Ascending (events.take (events.length / 2)) := by
      have kept := left.take (events.length / 2)
      rwa [List.take_take, Nat.min_eq_left (by omega)] at kept
    rw [Ascending, ← List.take_append_drop (events.length / 2) events, List.pairwise_append]
    refine ⟨shorter, right, ?_⟩
    intro earlier before later behind
    have less := isMiddle.before nodup findsAll before
    have notLess := isMiddle.not_before nodup findsAll behind
    exact Std.lt_of_lt_of_le less (String.not_lt.1 notLess)
  · cases events with
    | nil => exact .nil
    | cons only others =>
        cases others with
        | nil => exact List.pairwise_singleton _ _
        | cons second rest => simp at several
termination_by events.length
decreasing_by
  · simp only [List.length_take]
    omega
  · simp only [List.length_drop]
    omega

/-! ## Catalogs that have been read -/

/-- The search finds an event of every name that an event has. -/
def Searchable (catalog : Catalog) : Prop :=
  ∀ event ∈ catalog.events,
    ∃ found, catalog.get? event.name.text = some found ∧ found.name = event.name

theorem Searchable.findsAll {catalog : Catalog} (searchable : catalog.Searchable)
    (nodup : (catalog.events.map (·.name)).Nodup) : FindsAll catalog.events := by
  intro event member
  obtain ⟨found, finds, sameName⟩ := searchable event member
  have among := (mem_of_search finds).1
  have same : found = event := List.inj_on_of_nodup_map nodup among member sameName
  rw [same] at finds
  exact finds

instance (events : List Event) : Decidable (Ascending events) :=
  inferInstanceAs (Decidable (events.Pairwise _))

end EventFields.Catalog

namespace EventFields

/-! ## A sample

Two events that are written out of order, and the same in order. -/

namespace Sample

def early : Event := ⟨⟨"org.example.Early", by decide⟩, .empty⟩

def late : Event := ⟨⟨"org.example.Late", by decide⟩, .ofList [(id, .plain "Long")]⟩

def outOfOrder : Catalog := ⟨[late, early]⟩

def ordered : Catalog := ⟨[early, late]⟩

theorem ofJson_outOfOrder : Catalog.ofJson outOfOrder.toJson = .ok outOfOrder := by
  decide +kernel

end Sample

namespace Catalog

/-- Which catalogs can be searched.

* If the names ascend strictly, the search for a name finds the event that has it, if
  there is one.
* If all names are different, the search finds every event only if the names ascend.
* Reading does not see to it: the events of a catalog that has been read can be read in
  any other order, too.
* What is written of a registry ascends. -/
theorem searchable_iff_ascending {value : Json} {catalog : Catalog}
    (read : ofJson value = .ok catalog) :
    (Ascending catalog.events → ∀ name event, catalog.get? name = some event ↔
      event ∈ catalog.events ∧ event.name.text = name) ∧
    ((catalog.events.map (·.name)).Nodup →
      (catalog.Searchable ↔ Ascending catalog.events)) ∧
    (∀ events, events.Perm catalog.events → ofJson (toJson ⟨events⟩) = .ok ⟨events⟩) ∧
    ∀ registry : Registry, registry.catalog.WellFormed → value = registry.catalog.toJson →
      catalog = registry.catalog ∧ Ascending catalog.events := by
  have wellFormed : catalog.WellFormed := ensures_reader _ catalog read
  refine ⟨?ascending, ?different, ?reordered, ?registry⟩
  case ascending =>
    intro ascending name event
    constructor
    · intro finds
      exact mem_of_search finds
    · intro found
      obtain ⟨member, rfl⟩ := found
      exact ascending.findsAll event member
  case different =>
    intro nodup
    constructor
    · intro searchable
      exact (searchable.findsAll nodup).ascending nodup
    · intro ascending event member
      exact ⟨event, ascending.findsAll event member, rfl⟩
  case reordered =>
    intro events perm
    rw [ofJson_toJson_eq_ok_iff]
    intro event member
    exact wellFormed event (perm.mem_iff.1 member)
  case registry =>
    intro registry registryFormed written
    rw [written, registryFormed.readBack.value] at read
    cases read
    exact ⟨rfl, registry.ascending_catalog⟩

/-- In the sample the events can be read in both orders, but only one of them can be
searched. -/
theorem searchable_iff_ascending_ordered :
    ofJson Sample.outOfOrder.toJson = .ok Sample.outOfOrder ∧
    ¬ Sample.outOfOrder.Searchable ∧
    ofJson Sample.ordered.toJson = .ok Sample.ordered ∧
    Sample.ordered.get? "org.example.Late" = some Sample.late := by
  obtain ⟨-, different, reordered, -⟩ := searchable_iff_ascending Sample.ofJson_outOfOrder
  have inOrder : ofJson Sample.ordered.toJson = .ok Sample.ordered :=
    reordered [Sample.early, Sample.late] (.swap _ _ _)
  obtain ⟨finds, -⟩ := searchable_iff_ascending inOrder
  refine ⟨Sample.ofJson_outOfOrder, ?_, inOrder, ?_⟩
  · rw [different (by decide +kernel)]
    decide +kernel
  · rw [finds (by decide +kernel)]
    exact ⟨by simp [Sample.ordered], rfl⟩

/-- An event that stands before one with a smaller name is read, but not found. -/
theorem not_found_out_of_order :
    ofJson Sample.outOfOrder.toJson = .ok Sample.outOfOrder ∧
    ¬ Ascending Sample.outOfOrder.events ∧
    Sample.late ∈ Sample.outOfOrder.events ∧
    Sample.outOfOrder.get? Sample.late.name.text = none := by
  refine ⟨Sample.ofJson_outOfOrder, ?_, by simp [Sample.outOfOrder], ?_⟩
  · decide +kernel
  · decide +kernel

end Catalog

end EventFields

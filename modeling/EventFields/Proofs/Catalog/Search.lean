import EventFields.Catalog

/-!
# The search for an event

The events of a catalog ascend by name.  The event in the middle therefore parts
those with smaller names from the others, and the half that the search leaves out
does not hold the name that is sought.
-/

namespace EventFields.Catalog

variable {events : List Event} {name : String}

/-- The names of events ascend strictly. -/
def Ascending (events : List Event) : Prop :=
  events.Pairwise fun earlier later => earlier.name.text < later.name.text

namespace Ascending

theorem take (ascending : Ascending events) (count : Nat) : Ascending (events.take count) :=
  List.Pairwise.sublist (List.take_sublist count events) ascending

theorem drop (ascending : Ascending events) (count : Nat) : Ascending (events.drop count) :=
  List.Pairwise.sublist (List.drop_sublist count events) ascending

/-- An event parts those before it from those after it. -/
theorem parts (ascending : Ascending events) {place : Nat} {middle : Event}
    (found : events[place]? = some middle) :
    (∀ event ∈ events.take place, event.name.text < middle.name.text) ∧
      ∀ event ∈ events.drop place, middle.name.text ≤ event.name.text := by
  obtain ⟨within, rfl⟩ := List.getElem?_eq_some_iff.1 found
  have split := List.take_append_drop place events
  rw [Ascending, ← split, List.pairwise_append] at ascending
  obtain ⟨-, later, earlier⟩ := ascending
  rw [List.drop_eq_getElem_cons within] at later earlier ⊢
  refine ⟨fun event member => earlier event member _ List.mem_cons_self, ?_⟩
  intro event member
  rcases List.mem_cons.1 member with rfl | after
  · exact String.le_refl _
  · exact Std.le_of_lt ((List.pairwise_cons.1 later).1 event after)

end Ascending

theorem find?_take_of_absent {count : Nat}
    (absent : ∀ event ∈ events.drop count, event.name.text ≠ name) :
    (events.take count).find? (·.name.text = name) = events.find? (·.name.text = name) := by
  have unfound : (events.drop count).find? (·.name.text = name) = none := by
    simpa using absent
  have whole := congrArg (List.find? (·.name.text = name)) (List.take_append_drop count events)
  rwa [List.find?_append, unfound, Option.or_none] at whole

theorem find?_drop_of_absent {count : Nat}
    (absent : ∀ event ∈ events.take count, event.name.text ≠ name) :
    (events.drop count).find? (·.name.text = name) = events.find? (·.name.text = name) := by
  have unfound : (events.take count).find? (·.name.text = name) = none := by
    simpa using absent
  have whole := congrArg (List.find? (·.name.text = name)) (List.take_append_drop count events)
  rwa [List.find?_append, unfound, Option.none_or] at whole

/-- On ascending events the search finds the event that a look at every one finds. -/
theorem search_eq_find? (ascending : Ascending events) :
    search name events = events.find? (·.name.text = name) := by
  fun_induction search name events with
  | case1 => rfl
  | case2 only same => simp [same]
  | case3 only differs => simp [differs]
  | case4 first second rest all half missing =>
      have within : half < all.length := by grind
      simp [List.getElem?_eq_getElem within] at missing
  | case5 first second rest all half middle found before ih =>
      rw [ih (ascending.take _)]
      apply find?_take_of_absent
      intro event member same
      have behind := (ascending.parts found).2 event
        (List.drop_subset_drop_left _ (by grind) member)
      rw [same] at behind
      exact String.not_lt.2 behind before
  | case6 first second rest all half middle found notBefore ih =>
      rw [ih (ascending.drop _)]
      apply find?_drop_of_absent
      rintro event member rfl
      exact notBefore ((ascending.parts found).1 event member)

end EventFields.Catalog

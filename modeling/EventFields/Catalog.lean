import EventFields.FieldMapping
import EventFields.SortedMap

/-!
# Events and their catalog

A registry holds the mapping last recorded under each name. A catalog lists
events; the catalog of a registry is in the order of the names, which is what
the binary search for an event relies on.
-/

namespace EventFields

/-- An event: an analysed interface with its fields. -/
structure Event where
  name : InterfaceName
  fields : FieldMapping
  deriving DecidableEq

/-- A list of events. -/
structure Catalog where
  events : List Event
  deriving DecidableEq

namespace Catalog

/-- The number of events. -/
def size (catalog : Catalog) : Nat :=
  catalog.events.length

/-- Whether there are no events. -/
def isEmpty (catalog : Catalog) : Bool :=
  catalog.events.isEmpty

/-- Searches ascending events by halves. The event in the middle tells which
half to keep, until one event is left. -/
def search (name : String) (events : List Event) : Option Event :=
  match events with
  | [] => none
  | [only] => if only.name.text = name then some only else none
  | first :: second :: rest =>
      let all := first :: second :: rest
      let half := all.length / 2
      match all[half]? with
      | none => none
      | some middle =>
          if name < middle.name.text then
            search name (all.take (all.length - half))
          else
            search name (all.drop half)
termination_by events.length
decreasing_by
  all_goals simp only [List.length_take, List.length_drop, List.length_cons]; omega

/-- The event with a given name. -/
def get? (catalog : Catalog) (name : String) : Option Event :=
  search name catalog.events

end Catalog

/-- The mappings recorded so far, by the name of their interface. -/
structure Registry where
  events : SortedMap InterfaceName FieldMapping
  deriving DecidableEq

namespace Registry

/-- The registry in which nothing is recorded. -/
def empty : Registry := ⟨.empty⟩

/-- The number of names recorded. -/
def size (registry : Registry) : Nat :=
  registry.events.size

/-- Whether nothing is recorded. -/
def isEmpty (registry : Registry) : Bool :=
  registry.events.entries.isEmpty

/-- The mapping recorded under a name. -/
def get? (registry : Registry) (name : String) : Option FieldMapping :=
  registry.events.get? name

/-- Records a mapping under a name, in place of an earlier one. -/
def record (registry : Registry) (name : InterfaceName) (fields : FieldMapping) :
    Registry :=
  ⟨registry.events.insert name fields⟩

/-- Records a mapping under a name. Also returns the earlier one that it replaces. -/
def replace (registry : Registry) (name : InterfaceName) (fields : FieldMapping) :
    Option FieldMapping × Registry :=
  let (replaced?, events) := registry.events.replace name fields
  (replaced?, ⟨events⟩)

/-- The recorded events in the order of their names. -/
def catalog (registry : Registry) : Catalog :=
  ⟨registry.events.entries.map fun entry => ⟨entry.1, entry.2⟩⟩

/-- The events recorded so far, while more may be recorded. -/
def snapshot (registry : Registry) : Catalog :=
  ⟨registry.events.entries.map fun (name, fields) => { name, fields }⟩

end Registry

/-- A registry behind a lock. Whoever uses it holds the lock meanwhile, so that
its uses take effect one after the other. -/
structure SharedRegistry where
  inner : Registry
  deriving DecidableEq

namespace SharedRegistry

/-- Puts a registry behind a lock. -/
def ofRegistry (registry : Registry) : SharedRegistry := ⟨registry⟩

/-- Records a mapping while holding the lock. Also returns the earlier one. -/
def record (shared : SharedRegistry) (name : InterfaceName) (fields : FieldMapping) :
    Option FieldMapping × SharedRegistry :=
  let (replaced?, inner) := shared.inner.replace name fields
  (replaced?, ⟨inner⟩)

/-- The events recorded so far. -/
def snapshot (shared : SharedRegistry) : Catalog :=
  shared.inner.snapshot

end SharedRegistry

end EventFields

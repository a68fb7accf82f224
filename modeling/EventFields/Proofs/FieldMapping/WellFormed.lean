import EventFields.Catalog.Json
import EventFields.Proofs.FieldMapping.Writes
import EventFields.Proofs.Json.Reading
import EventFields.Proofs.TypeRef.RoundTrip

/-!
# Well-formed mappings

A mapping is well-formed if its types are.  Whatever writes well-formed types keeps
it so.  Well-formed mappings are those that can be written as JSON and read again;
since fields are written in order and read in order, each keeps its place.
-/

namespace EventFields.FieldMapping

open Json (Reader)

/-- The types of all fields are well-formed. -/
def WellFormed (fields : FieldMapping) : Prop :=
  ∀ entry ∈ fields.entries, entry.2.WellFormed

variable {fields other : FieldMapping} {name : FieldName} {type : TypeRef}

theorem wellFormed_iff_get? :
    fields.WellFormed ↔ ∀ name type, fields.get? name = some type → type.WellFormed := by
  constructor
  · intro wellFormed name type held
    obtain ⟨entry, found, rfl⟩ := Option.map_eq_some_iff.1 held
    exact wellFormed entry (List.mem_of_find?_eq_some found)
  · intro wellFormed entry member
    exact wellFormed entry.1.text entry.2 (mem_entries_iff.1 member)

/-! ## Writes -/

theorem wellFormed_empty : empty.WellFormed := by
  simp [WellFormed, empty]

theorem WellFormed.set (wellFormed : fields.WellFormed) (typeFormed : type.WellFormed) :
    (fields.set name type).WellFormed := by
  rw [wellFormed_iff_get?] at *
  intro sought found held
  rw [get?_set] at held
  split at held
  · cases held
    exact typeFormed
  · exact wellFormed sought found held

theorem WellFormed.merge (wellFormed : fields.WellFormed) (otherFormed : other.WellFormed) :
    (fields.merge other).WellFormed := by
  rw [wellFormed_iff_get?] at *
  intro sought found held
  rw [get?_merge, Option.or_eq_some_iff] at held
  rcases held with listed | ⟨-, kept⟩
  · exact otherFormed sought found listed
  · exact wellFormed sought found kept

/-! ## Mappings as JSON -/

theorem ensures_reader : reader.Ensures WellFormed := by
  apply Reader.ensures_map wellFormed_empty
  intro fields key draft next before wrote
  unfold writeField at wrote
  split at wrote
  · cases wrote
  · split at wrote
    · next type read =>
      cases wrote
      exact before.set (Reader.ensures_type draft type read)
    · cases wrote

/-- A well-formed mapping is read from what is written of it, in the same order. -/
theorem WellFormed.reads (wellFormed : fields.WellFormed) :
    reader.Reads fields.toJson fields := by
  have reads : reader.Reads fields.toJson (empty.merge fields) :=
    Reader.reads_map fun entry member written draft held => by
      rw [writeField, Name.ofText?_text]
      simp only [Reader.reads_type (wellFormed entry member) draft held]
  rwa [empty_merge] at reads

end EventFields.FieldMapping

import EventFields.Proofs.FieldMapping.WellFormed
import EventFields.Proofs.Json.Spelling

/-!
# Catalogs written and read again

A catalog of well-formed mappings is read from what is written of it, with its events
and their fields in the same order.  There are no numbers in what is written, and
little nesting, so this holds of the written texts too.
-/

namespace EventFields

open Json (Reader Schema Slot)

/-! ## Events -/

theorem Event.reads {event : Event} (wellFormed : event.fields.WellFormed) :
    schema.reader.Reads event.toJson event := by
  obtain ⟨name, fields⟩ := event
  refine Schema.reads_obj ⟨some name, some fields⟩ ?members rfl
  refine .cons rfl (by simp) (Reader.reads_name name) ?_
  exact .cons rfl (by simp) wellFormed.reads .nil

theorem Event.ensures_schema : schema.reader.Ensures fun event => event.fields.WellFormed := by
  refine Schema.ensures (fun parts : Parts => ∀ fields, parts.fields? = some fields →
    fields.WellFormed) ?start ?keeps ?finish
  · simp [schema]
  · simp only [schema, List.forall_mem_cons]
    refine ⟨?name, ?fields, by simp⟩
    case name =>
      exact Slot.keeps_of_forall fun _ _ before => before
    case fields =>
      refine Slot.keeps_of FieldMapping.ensures_reader fun _ _ _ wellFormed _ known => ?_
      cases known
      exact wellFormed
  · intro parts event known finished
    simp only [schema] at finished
    split at finished <;> cases finished
    exact known _ ‹_›

/-! ## Catalogs -/

namespace Catalog

/-- The mappings of all events are well-formed. -/
def WellFormed (catalog : Catalog) : Prop :=
  ∀ event ∈ catalog.events, event.fields.WellFormed

variable {catalog : Catalog}

theorem WellFormed.reads (wellFormed : catalog.WellFormed) :
    reader.Reads catalog.toJson catalog := by
  intro draft held
  have read := Reader.reads_list (fun event member => Event.reads (wellFormed event member))
    draft held
  rw [reader, read]

theorem ensures_reader : reader.Ensures WellFormed := by
  intro draft catalog read
  unfold reader at read
  split at read
  · next events listed =>
    cases read
    exact Event.ensures_schema.list draft events listed
  · cases read

/-- A catalog is read from what is written of it exactly if it is well-formed. -/
theorem ofJson_toJson_eq_ok_iff : ofJson catalog.toJson = .ok catalog ↔ catalog.WellFormed :=
  ⟨ensures_reader _ catalog, fun wellFormed => wellFormed.reads.readWith⟩

/-! ## Texts of catalogs -/

theorem isNumberless_toJson (catalog : Catalog) : catalog.toJson.isNumberless = true := by
  rw [toJson, Json.isNumberless, Json.elementsNumberless_iff, List.forall_mem_map]
  intro event _
  have fields : event.fields.toJson.isNumberless = true := by
    rw [FieldMapping.toJson, Json.isNumberless, Json.membersNumberless_iff, List.forall_mem_map]
    exact fun _ _ => rfl
  simp [Event.toJson, Json.isNumberless, Json.membersNumberless, fields]

theorem depth_toJson_le (catalog : Catalog) : catalog.toJson.depth ≤ 3 := by
  rw [toJson, Json.depth, Nat.add_one_le_iff, Nat.lt_succ_iff, Json.elementsDepth_le_iff,
    List.forall_mem_map]
  intro event _
  have fields : event.fields.toJson.depth ≤ 1 := by
    rw [FieldMapping.toJson, Json.depth, Nat.add_one_le_iff, Nat.lt_succ_iff,
      Json.membersDepth_le_iff, List.forall_mem_map]
    exact fun _ _ => Nat.le_refl 0
  simpa [Event.toJson, Json.depth, Json.membersDepth] using fields

theorem depth_toJson_lt (catalog : Catalog) : catalog.toJson.depth < Json.Draft.depthLimit :=
  Nat.lt_of_le_of_lt catalog.depth_toJson_le (by decide)

/-- Both texts of a catalog spell it. -/
theorem spells_compact (catalog : Catalog) : Json.Spells catalog.toJson.compact catalog.toJson :=
  Json.spells_compact catalog.isNumberless_toJson catalog.depth_toJson_lt

@[inherit_doc spells_compact]
theorem spells_pretty (catalog : Catalog) : Json.Spells catalog.toJson.pretty catalog.toJson :=
  Json.spells_pretty catalog.isNumberless_toJson catalog.depth_toJson_lt

/-- What is written of a catalog, as a value and as a text, gives the catalog back. -/
structure ReadBack (catalog : Catalog) : Prop where
  value : ofJson catalog.toJson = .ok catalog
  compact : Json.readText reader catalog.toJson.compact = .ok catalog
  pretty : Json.readText reader catalog.toJson.pretty = .ok catalog

theorem WellFormed.readBack (wellFormed : catalog.WellFormed) : catalog.ReadBack where
  value := wellFormed.reads.readWith
  compact := wellFormed.reads.readText catalog.spells_compact
  pretty := wellFormed.reads.readText catalog.spells_pretty

end Catalog

end EventFields

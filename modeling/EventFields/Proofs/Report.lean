import EventFields.Proofs.Catalog.RoundTrip
import EventFields.Report

/-!
# What reports on catalogs say

A report as text is specified line by line, without the printer: a block of lines for each
event, in order, and the numbers behind an empty line.  There is one text of this kind for
a catalog, and it is the one that is printed.

A report as JSON is specified by its reader.  It has a line break at its end, which a reader
passes over, so the catalog is read from it as from its JSON text.
-/

namespace EventFields

/-! ## Text -/

/-- Lines on an event: its name, followed by an indented line for each field, in order, or
by a note that there is none. -/
inductive Event.Described : Event → List String → Prop
  | bare {event : Event} : event.fields.entries = [] →
      Described event [event.name.text, "  (no fields)"]
  | listing {event : Event} : event.fields.entries ≠ [] →
      Described event (event.name.text ::
        event.fields.entries.map fun entry => "  " ++ entry.1.text ++ ": " ++ entry.2.text)

/-- A text describes events in order, and ends with an empty line and a line of numbers.
Each line has a line break at its end. -/
def Describes (text : String) (events : List Event) (count warnings : Nat) : Prop :=
  ∃ blocks, List.Forall₂ Event.Described events blocks ∧
    text = String.join ((blocks.flatten ++
      ["", toString count ++ " events, " ++ toString warnings ++ " warnings"]).map (· ++ "\n"))

namespace Catalog

/-- The lines that are printed on an event are those that describe it. -/
theorem described_iff {event : Event} {block : List String} :
    event.Described block ↔ eventLines event = block := by
  have fieldLines : (event.fields.entries.map fun entry => "  " ++ fieldText entry) =
      event.fields.entries.map fun entry => "  " ++ entry.1.text ++ ": " ++ entry.2.text := by
    simp only [fieldText, String.append_assoc]
  rw [eventLines, FieldMapping.isEmpty, fieldLines]
  constructor
  · intro described
    cases described with
    | bare empty => simp [empty]
    | listing nonempty => simp [nonempty]
  · intro printed
    rw [← printed]
    by_cases empty : event.fields.entries = []
    · simpa [empty] using Event.Described.bare empty
    · simpa [empty] using Event.Described.listing empty

theorem forall₂_described_iff {events : List Event} {blocks : List (List String)} :
    List.Forall₂ Event.Described events blocks ↔ events.map eventLines = blocks := by
  rw [← List.forall₂_eq_eq_eq, List.forall₂_map_left_iff]
  simp only [← described_iff]

/-- The report that is printed as text is the one text that describes the catalog. -/
theorem describes_iff {catalog : Catalog} {text : String} {warnings : Nat} :
    Describes text catalog.events catalog.size warnings ↔ text = catalog.textReport warnings := by
  simp only [Describes, forall₂_described_iff, exists_eq_left', textReport, lines,
    List.flatMap_def]

/-! ## JSON -/

theorem jsonReport_eq (catalog : Catalog) :
    catalog.jsonReport = catalog.toJson.pretty ++ "\n" := by
  simp [jsonReport, lines]

/-- A catalog is read from the report on it. -/
theorem WellFormed.readText_jsonReport {catalog : Catalog} (wellFormed : catalog.WellFormed) :
    Json.readText reader catalog.jsonReport = .ok catalog := by
  apply wellFormed.reads.readText
  rw [jsonReport_eq]
  exact Json.spells_pretty_line catalog.isNumberless_toJson catalog.depth_toJson_lt

end Catalog

end EventFields

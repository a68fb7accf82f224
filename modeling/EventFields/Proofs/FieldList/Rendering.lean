import EventFields.Proofs.FieldList.Entries
import EventFields.Proofs.TypeRef.Characters
import Mathlib.Data.List.Forall2

/-!
# Mappings as explicit field lists

The fields of a mapping can be listed as entries, each a name and a printed type
with a colon between them.  Reading the list gives the mapping back exactly if the
colon of each entry is the only one, the name has no blanks around it and the type
can be read from its printed form.  Whatever has been read from a list is of this
kind.
-/

namespace EventFields

/-- A field as an entry. -/
def FieldList.entryOf (field : FieldName × TypeRef) : String :=
  field.1.text ++ ":" ++ field.2.text

/-- The fields of a mapping as entries, in order. -/
def FieldMapping.toEntries (fields : FieldMapping) : List String :=
  fields.entries.map FieldList.entryOf

namespace FieldList

/-- A field that an entry can stand for. -/
structure Expressible (field : FieldName × TypeRef) : Prop where
  trimmed : Text.trimmed field.1.text = field.1.text
  no_colon_in_name : ':' ∉ field.1.text.toList
  no_colon_in_type : ∀ name ∈ field.2.names, ':' ∉ name.toList
  wellFormed : field.2.WellFormed

variable {entry : String} {field : FieldName × TypeRef} {fields : FieldMapping}

theorem colon_mem_text_iff {type : TypeRef} :
    ':' ∈ type.text.toList ↔ ∃ name ∈ type.names, ':' ∈ name.toList := by
  rw [TypeRef.text, String.toList_ofList]
  exact TypeRef.mem_chars_iff ⟨by decide, by decide⟩

/-- A field that an entry stands for is expressible. -/
theorem Denotes.expressible (denotes : Denotes .parsing entry field) : Expressible field := by
  obtain ⟨before, after, splits, named, parsed⟩ := denotes
  obtain ⟨inBefore, inAfter⟩ := splits.no_colon
  refine ⟨?_, ?_, ?_, TypeRef.wellFormed_of_parse parsed⟩
  · rw [← named, Text.trimmed, Text.trimmed, String.toList_ofList, Text.trim_trim]
  · rw [← named, Text.trimmed, String.toList_ofList]
    exact fun member => inBefore (Text.mem_of_mem_trim member)
  · exact fun name ofType member => inAfter (TypeRef.mem_of_parse parsed ofType member)

/-- An expressible field is what its own entry stands for. -/
theorem Expressible.denotes (expressible : Expressible field) :
    Denotes .parsing (entryOf field) field := by
  have inType : ':' ∉ field.2.text.toList := by
    rw [colon_mem_text_iff]
    rintro ⟨name, named, member⟩
    exact expressible.no_colon_in_type name named member
  exact ⟨field.1.text, field.2.text,
    splits_iff.2 ⟨rfl, expressible.no_colon_in_name, inType⟩, expressible.trimmed,
    TypeRef.parse_text expressible.wellFormed⟩

theorem exists_denotes_of_mem {resolver : Resolver} {entries : List String}
    {written : List (FieldName × TypeRef)}
    (denote : List.Forall₂ (Denotes resolver) entries written) (member : field ∈ written) :
    ∃ entry ∈ entries, Denotes resolver entry field := by
  induction denote with
  | nil => cases member
  | @cons entry first _ _ denotes _ ih =>
      rcases List.mem_cons.1 member with rfl | later
      · exact ⟨entry, List.mem_cons_self, denotes⟩
      · obtain ⟨other, among, denotesLater⟩ := ih later
        exact ⟨other, List.mem_cons_of_mem _ among, denotesLater⟩

/-- Every field that has been read from a list is what one of its entries stands for. -/
theorem exists_denotes_of_parse {resolver : Resolver} {entries : List String}
    (parsed : parse resolver entries = .ok fields) (member : field ∈ fields.entries) :
    ∃ entry ∈ entries, Denotes resolver entry field := by
  obtain ⟨written, denote, merged⟩ := parse_eq_ok_iff.1 parsed
  have held := FieldMapping.mem_entries_iff.1 member
  rw [(writeAll_overwrites_eq_iff.1 merged).2, Option.map_eq_some_iff] at held
  obtain ⟨last, found, sameType⟩ := held
  have sameName : last.1 = field.1 := Name.ext (by simpa using List.find?_some found)
  have same : last = field := Prod.ext sameName sameType
  have inWritten := List.mem_reverse.1 (List.mem_of_find?_eq_some found)
  exact exists_denotes_of_mem denote (same ▸ inWritten)

theorem expressible_of_parse {entries : List String}
    (parsed : parse .parsing entries = .ok fields) (member : field ∈ fields.entries) :
    Expressible field := by
  obtain ⟨entry, _, denotes⟩ := exists_denotes_of_parse parsed member
  exact denotes.expressible

/-- A mapping with expressible fields is read back from its entries. -/
theorem parse_toEntries (expressible : ∀ field ∈ fields.entries, Expressible field) :
    parse .parsing fields.toEntries = .ok fields := by
  rw [parse_eq_ok_iff]
  refine ⟨fields.entries, ?_, ?_⟩
  · rw [FieldMapping.toEntries, List.forall₂_map_left_iff, List.forall₂_same]
    exact fun field member => (expressible field member).denotes
  · rw [← FieldMapping.merge_eq_writeAll, FieldMapping.empty_merge]

/-- Listing the fields of a mapping and reading the list gives the mapping back
exactly if all its fields are expressible; and this they are if the mapping has been
read from a list. -/
theorem parse_toEntries_eq_ok_iff :
    (∀ fields : FieldMapping, parse .parsing fields.toEntries = .ok fields ↔
      ∀ field ∈ fields.entries, Expressible field) ∧
    ∀ (entries : List String) (fields : FieldMapping), parse .parsing entries = .ok fields →
      parse .parsing fields.toEntries = .ok fields := by
  refine ⟨fun fields => ⟨?_, parse_toEntries⟩, ?_⟩
  · intro parsed field member
    exact expressible_of_parse parsed member
  · intro entries fields parsed
    exact parse_toEntries fun field member => expressible_of_parse parsed member

/-- A list with a name that is listed twice, surplus blanks and a type with arguments,
and the list that its mapping makes. -/
theorem parse_toEntries_eq_ok_iff_nested :
    parse .parsing [" a :Int", "b:Text", "a: Map<K,List< V > > "] =
      .ok (.ofList [(⟨"a", by decide⟩, .mk "Map" [.plain "K", .mk "List" [.plain "V"]]),
        (⟨"b", by decide⟩, .plain "Text")]) ∧
    parse .parsing ["a:Map<K, List<V>>", "b:Text"] =
      .ok (.ofList [(⟨"a", by decide⟩, .mk "Map" [.plain "K", .mk "List" [.plain "V"]]),
        (⟨"b", by decide⟩, .plain "Text")]) := by
  have parsed : parse .parsing [" a :Int", "b:Text", "a: Map<K,List< V > > "] =
      .ok (.ofList [(⟨"a", by decide⟩, .mk "Map" [.plain "K", .mk "List" [.plain "V"]]),
        (⟨"b", by decide⟩, .plain "Text")]) := by decide +kernel
  exact ⟨parsed, parse_toEntries_eq_ok_iff.2 _ _ parsed⟩

end FieldList

end EventFields

import EventFields.FieldList
import EventFields.Proofs.FieldMapping.Writes

/-!
# Reading explicit field lists

Reading a list either fails at some entry or writes the field of every entry,
in order.  The names of a list can be told without a resolver: each entry
writes the trimmed text in front of its colon.
-/

namespace EventFields.FieldList

/-- The name that an entry writes. -/
def entryName? (entry : String) : Option FieldName :=
  (split? entry).bind fun parts => Name.ofText? (Text.trimmed parts.1)

/-- The names that the list of an annotation writes, in order and as often as
they are listed. -/
def listedNames (tag : Annotation) : List FieldName :=
  (((tag.element? valueElement).bind (·.texts?)).getD []).filterMap entryName?

/-- The fields that entries stand for, one by one. -/
def Resolves (resolver : Resolver) : List String → List (FieldName × TypeRef) → Prop :=
  List.Forall₂ fun entry field => parseEntry resolver entry = .ok field

theorem parseInto_eq_ok_iff {resolver : Resolver} {fields result : FieldMapping}
    {entries : List String} :
    parseInto resolver fields entries = .ok result ↔
      ∃ written, Resolves resolver entries written ∧
        fields.writeAll (FieldMapping.overwrites written) = result := by
  induction entries generalizing fields with
  | nil =>
      constructor
      · intro parsed
        exact ⟨[], .nil, Except.ok.inj parsed⟩
      · rintro ⟨written, resolves, rfl⟩
        cases resolves
        rfl
  | cons entry rest ih =>
      cases first : parseEntry resolver entry with
      | error error =>
          simp only [parseInto, first, reduceCtorEq, false_iff]
          rintro ⟨written, resolves, -⟩
          cases resolves with
          | cons head _ => simp [first] at head
      | ok field =>
          simp only [parseInto, first, ih]
          constructor
          · rintro ⟨written, resolves, rfl⟩
            exact ⟨field :: written, .cons first resolves, rfl⟩
          · rintro ⟨written, resolves, rfl⟩
            cases resolves with
            | cons head resolves =>
                cases first.symm.trans head
                exact ⟨_, resolves, rfl⟩

theorem entryName?_of_parseEntry {resolver : Resolver} {entry : String}
    {field : FieldName × TypeRef} (parsed : parseEntry resolver entry = .ok field) :
    entryName? entry = some field.1 := by
  simp only [parseEntry, Name.parse] at parsed
  simp only [entryName?]
  cases parts : split? entry with
  | none => simp [parts] at parsed
  | some both =>
      obtain ⟨nameText, typeText⟩ := both
      cases named : (Name.ofText? (Text.trimmed nameText) : Option FieldName) with
      | none => simp [parts, named] at parsed
      | some name =>
          cases resolved : resolver typeText with
          | error cause => simp [parts, named, resolved] at parsed
          | ok type =>
              simp only [parts, named, resolved, Except.ok.injEq] at parsed
              simpa [← parsed] using named

theorem Resolves.filterMap_entryName? {resolver : Resolver} {entries : List String}
    {written : List (FieldName × TypeRef)} (resolves : Resolves resolver entries written) :
    entries.filterMap entryName? = written.map Prod.fst := by
  induction resolves with
  | nil => rfl
  | cons parsed _ ih =>
      rw [List.filterMap_cons_some (entryName?_of_parseEntry parsed), ih, List.map_cons]

/-- The names of a list that has been read are those that it writes, each where
it is listed first. -/
theorem names_of_carriedBy {resolver : Resolver} {tag : Annotation} {fields : FieldMapping}
    (carried : carriedBy resolver tag = .ok fields) :
    fields.names = (listedNames tag).eraseDups := by
  simp only [carriedBy] at carried
  simp only [listedNames]
  cases element : tag.element? valueElement with
  | none => simp [element] at carried
  | some value =>
      cases texts : value.texts? with
      | none => simp [element, texts] at carried
      | some entries =>
          simp only [element, texts, parse] at carried
          obtain ⟨written, resolves, rfl⟩ := parseInto_eq_ok_iff.1 carried
          rw [Option.bind_some, texts, Option.getD_some, resolves.filterMap_entryName?,
            FieldMapping.names_writeAll, FieldMapping.map_name_overwrites]
          rfl

end EventFields.FieldList

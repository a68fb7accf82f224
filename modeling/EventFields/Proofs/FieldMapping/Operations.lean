import EventFields.Proofs.FieldMapping.Writes

/-!
# Histories of operations

A mapping is filled by inserting fields, by adding inferred ones, and by merging
other mappings.  Each operation performs writes, so what a history of operations
leaves behind follows from the rules for sequences of writes: whichever operation
writes a name first gives it its place, and whichever gives it a type last, or else
offers one first, determines its type.
-/

namespace EventFields.FieldMapping

/-- An operation on a mapping. -/
inductive Operation where
  /-- Inserts or overwrites a field. -/
  | insert (name : FieldName) (type : TypeRef)
  /-- Adds a field unless its name is there already. -/
  | insertInferred (name : FieldName) (type : TypeRef)
  /-- Copies every field of another mapping. -/
  | merge (other : FieldMapping)

namespace Operation

/-- The names that an operation writes, in order. -/
def names : Operation → List FieldName
  | insert name _ => [name]
  | insertInferred name _ => [name]
  | merge other => other.names

/-- The type that an operation gives to a name, whatever the name had. -/
def gives? (sought : String) : Operation → Option TypeRef
  | insert name type => if name.text = sought then some type else none
  | insertInferred _ _ => none
  | merge other => other.get? sought

/-- The type that an operation offers for a name that has none. -/
def offers? (sought : String) : Operation → Option TypeRef
  | insert _ _ => none
  | insertInferred name type => if name.text = sought then some type else none
  | merge _ => none

/-- The writes of an operation, in order. -/
def writes : Operation → List Write
  | insert name type => [.overwrite name type]
  | insertInferred name type => [.keep name type]
  | merge other => overwrites other.entries

theorem map_name_writes (operation : Operation) :
    operation.writes.map Write.name = operation.names := by
  cases operation with
  | insert name type => rfl
  | insertInferred name type => rfl
  | merge other => exact map_name_overwrites other.entries

theorem lastOverwrite?_writes (operation : Operation) (sought : String) :
    lastOverwrite? sought operation.writes = operation.gives? sought := by
  cases operation with
  | insert name type => exact List.findSome?_singleton
  | insertInferred name type => rfl
  | merge other => exact lastOverwrite?_overwrites other.nodup sought

theorem firstKeep?_writes (operation : Operation) (sought : String) :
    firstKeep? sought operation.writes = operation.offers? sought := by
  cases operation with
  | insert name type => rfl
  | insertInferred name type => exact List.findSome?_singleton
  | merge other => exact firstKeep?_overwrites other.entries sought

end Operation

/-- The mapping after an operation. -/
def operate (fields : FieldMapping) : Operation → FieldMapping
  | .insert name type => (fields.insert name type).2
  | .insertInferred name type => (fields.insertInferred name type).2
  | .merge other => fields.merge other

/-- The mapping after operations in order. -/
def operateAll (fields : FieldMapping) (operations : List Operation) : FieldMapping :=
  operations.foldl operate fields

theorem operate_eq_writeAll (fields : FieldMapping) (operation : Operation) :
    fields.operate operation = fields.writeAll operation.writes := by
  cases operation with
  | insert name type => rfl
  | insertInferred name type => rfl
  | merge other => exact merge_eq_writeAll fields other

theorem operateAll_eq_writeAll (fields : FieldMapping) (operations : List Operation) :
    fields.operateAll operations = fields.writeAll (operations.flatMap Operation.writes) := by
  induction operations generalizing fields with
  | nil => rfl
  | cons operation rest ih =>
      rw [List.flatMap_cons, writeAll_append, ← operate_eq_writeAll, ← ih]
      rfl

/-- A name stands where an operation has first written it. -/
theorem names_operateAll (operations : List Operation) :
    (empty.operateAll operations).names = (operations.flatMap Operation.names).eraseDups := by
  rw [operateAll_eq_writeAll, names_writeAll, names_empty, List.nil_append, List.map_flatMap]
  simp only [Operation.map_name_writes]

/-- A name has the type that it was given last, else the one that was offered first. -/
theorem get?_operateAll (operations : List Operation) (sought : String) :
    (empty.operateAll operations).get? sought =
      (operations.reverse.findSome? (·.gives? sought)).or
        (operations.findSome? (·.offers? sought)) := by
  rw [operateAll_eq_writeAll, get?_writeAll, get?_empty, Option.or_none,
    lastOverwrite?_flatMap, firstKeep?_flatMap]
  simp only [Operation.lastOverwrite?_writes, Operation.firstKeep?_writes]

/-! ## Views of a mapping -/

/-- What the views of a mapping have to do with each other: names are distinct, and
lookup, membership, size and iteration tell the same. -/
structure Coherent (fields : FieldMapping) : Prop where
  distinct : fields.names.Nodup
  size : fields.size = fields.names.length
  found : ∀ entry, entry ∈ fields.entries ↔ fields.get? entry.1.text = some entry.2
  contains : ∀ sought, fields.contains sought = (fields.get? sought).isSome
  listed : ∀ sought, fields.contains sought = true ↔ ∃ name ∈ fields.names, name.text = sought

theorem contains_eq_isSome (fields : FieldMapping) (sought : String) :
    fields.contains sought = (fields.get? sought).isSome := by
  rw [contains, get?, Option.isSome_map, List.isSome_find?]

theorem contains_iff {fields : FieldMapping} {sought : String} :
    fields.contains sought = true ↔ ∃ name ∈ fields.names, name.text = sought := by
  simp [contains, names]

theorem coherent (fields : FieldMapping) : fields.Coherent where
  distinct := fields.nodup_names
  size := by rw [size, names, List.length_map]
  found _ := mem_entries_iff
  contains := fields.contains_eq_isSome
  listed _ := contains_iff

/-! ## Answers -/

theorem writeEntry_fst (name : FieldName) (type : TypeRef)
    (entries : List (FieldName × TypeRef)) :
    (writeEntry name type entries).1 =
      (entries.find? (·.1.text = name.text)).map Prod.snd := by
  induction entries with
  | nil => rfl
  | cons entry rest ih =>
      by_cases here : entry.1 = name
      · simp [writeEntry, here]
      · have differ : entry.1.text ≠ name.text := fun same => here (Name.ext same)
        simpa [writeEntry, here, differ] using ih

/-- Inserting answers with the type that the name had. -/
theorem insert_fst (fields : FieldMapping) (name : FieldName) (type : TypeRef) :
    (fields.insert name type).1 = fields.get? name.text :=
  writeEntry_fst name type fields.entries

variable {fields : FieldMapping} {name : FieldName} {type existing : TypeRef}

theorem insertInferred_eq_added_iff :
    (fields.insertInferred name type).1 = .added ↔ fields.contains name.text = false := by
  rw [contains_eq_isSome, insertInferred]
  cases fields.get? name.text with
  | none => simp
  | some held => by_cases same : held = type <;> simp [same]

theorem insertInferred_eq_confirmed_iff :
    (fields.insertInferred name type).1 = .confirmed ↔ fields.get? name.text = some type := by
  rw [insertInferred]
  cases fields.get? name.text with
  | none => simp
  | some held => by_cases same : held = type <;> simp [same]

theorem insertInferred_eq_conflict_iff :
    (fields.insertInferred name type).1 = .conflict existing ↔
      fields.get? name.text = some existing ∧ existing ≠ type := by
  rw [insertInferred]
  cases fields.get? name.text with
  | none => simp
  | some held =>
      by_cases same : held = type
      · simp [same, eq_comm]
      · simp only [same, if_false, Outcome.conflict.injEq, Option.some.injEq]
        constructor
        · intro equal
          exact ⟨equal, equal ▸ same⟩
        · exact And.left

/-- An inferred field changes nothing unless its name is new. -/
theorem insertInferred_snd_eq (fields : FieldMapping) (name : FieldName) (type : TypeRef) :
    (fields.insertInferred name type).2 =
      if fields.contains name.text then fields else fields.set name type := by
  rw [insertInferred_snd, contains_eq_isSome]
  simp only [mem_names_iff_isSome]

/-! ## Meaning -/

/-- What a mapping holds after any history of operations.

* Its names are distinct, stand in the order in which operations have first written
  them, and all views of the mapping agree on them.
* A name has the type of the last operation that inserted or merged it or, if there
  is none, of the first inferred field of the name.
* An insertion answers with the type that the name had; an inferred field is added,
  confirmed or in conflict by what the name had, and changes nothing unless added.
* The same holds of the mapping that is built from pairs: they are inserted in order. -/
theorem operations_meaning :
    (∀ operations : List Operation,
      let fields := empty.operateAll operations
      fields.Coherent ∧
      fields.names = (operations.flatMap Operation.names).eraseDups ∧
      (∀ sought, fields.get? sought =
        (operations.reverse.findSome? (·.gives? sought)).or
          (operations.findSome? (·.offers? sought))) ∧
      ∀ name type,
        (fields.insert name type).1 = fields.get? name.text ∧
        ((fields.insertInferred name type).1 = .added ↔
          fields.contains name.text = false) ∧
        ((fields.insertInferred name type).1 = .confirmed ↔
          fields.get? name.text = some type) ∧
        (∀ existing, (fields.insertInferred name type).1 = .conflict existing ↔
          fields.get? name.text = some existing ∧ existing ≠ type) ∧
        (fields.insertInferred name type).2 =
          if fields.contains name.text then fields else fields.set name type) ∧
    ∀ pairs : List (FieldName × TypeRef),
      (ofList pairs).Coherent ∧
      (ofList pairs).names = (pairs.map Prod.fst).eraseDups ∧
      ∀ sought, (ofList pairs).get? sought =
        (pairs.reverse.find? (·.1.text = sought)).map Prod.snd := by
  constructor
  · intro operations fields
    refine ⟨fields.coherent, names_operateAll operations, get?_operateAll operations, ?_⟩
    intro name type
    exact ⟨fields.insert_fst name type, insertInferred_eq_added_iff,
      insertInferred_eq_confirmed_iff, fun _ => insertInferred_eq_conflict_iff,
      fields.insertInferred_snd_eq name type⟩
  · intro pairs
    exact ⟨(ofList pairs).coherent, names_ofList pairs, get?_ofList pairs⟩

end EventFields.FieldMapping

import EventFields.Name
import EventFields.TypeRef.Basic

/-!
# Field mappings

A mapping from field names to types that remembers the order in which names
were first written. Explicit writes overwrite the type of a name but keep its
place; inferred writes never change a name that is already there.
-/

namespace EventFields

/-- Fields with their types, in the order in which the names were first written. -/
structure FieldMapping where
  entries : List (FieldName × TypeRef)
  nodup : (entries.map Prod.fst).Nodup

namespace FieldMapping

/-- The mapping without fields. -/
def empty : FieldMapping := ⟨[], .nil⟩

instance : Inhabited FieldMapping := ⟨empty⟩

@[ext] theorem ext {left right : FieldMapping} (same : left.entries = right.entries) :
    left = right := by
  cases left
  cases right
  cases same
  rfl

/-- Equality of mappings as ordered lists of fields. -/
instance : DecidableEq FieldMapping := fun left right =>
  if same : left.entries = right.entries then .isTrue (ext same)
  else .isFalse fun equal => same (equal ▸ rfl)

/-- The names, in order. -/
def names (fields : FieldMapping) : List FieldName :=
  fields.entries.map Prod.fst

/-- The number of fields. -/
def size (fields : FieldMapping) : Nat :=
  fields.entries.length

/-- Whether there are no fields. -/
def isEmpty (fields : FieldMapping) : Bool :=
  fields.entries.isEmpty

/-- The type of the field with a given name. -/
def get? (fields : FieldMapping) (name : String) : Option TypeRef :=
  (fields.entries.find? fun entry => entry.1.text = name).map Prod.snd

/-- Whether there is a field with a given name. -/
def contains (fields : FieldMapping) (name : String) : Bool :=
  fields.entries.any fun entry => entry.1.text = name

/-- Whether two mappings give the same types to the same names, in any order. -/
def sameFields (left right : FieldMapping) : Bool :=
  left.size = right.size &&
    left.entries.all fun entry => right.get? entry.1.text = some entry.2

/-- Writes a type under a name: in place if the name is there, else at the end.
Also returns the type that was replaced. -/
def writeEntry (name : FieldName) (type : TypeRef) :
    List (FieldName × TypeRef) → Option TypeRef × List (FieldName × TypeRef)
  | [] => (none, [(name, type)])
  | entry :: rest =>
      if entry.1 = name then
        (some entry.2, (name, type) :: rest)
      else
        let (previous, written) := writeEntry name type rest
        (previous, entry :: written)

theorem names_writeEntry (name : FieldName) (type : TypeRef)
    (entries : List (FieldName × TypeRef)) :
    (writeEntry name type entries).2.map Prod.fst =
      if name ∈ entries.map Prod.fst then entries.map Prod.fst
      else entries.map Prod.fst ++ [name] := by
  induction entries with
  | nil => simp [writeEntry]
  | cons entry rest ih =>
      unfold writeEntry
      by_cases same : entry.1 = name
      · simp [same]
      · have differ : ¬ name = entry.1 := fun equal => same equal.symm
        simp only [same, if_false, List.map_cons, ih, List.mem_cons, differ, false_or]
        split <;> simp

theorem nodup_writeEntry (name : FieldName) (type : TypeRef)
    {entries : List (FieldName × TypeRef)} (nodup : (entries.map Prod.fst).Nodup) :
    ((writeEntry name type entries).2.map Prod.fst).Nodup := by
  rw [names_writeEntry]
  split
  · exact nodup
  · next absent =>
    rw [List.nodup_append]
    refine ⟨nodup, by simp, fun earlier member last last_mem => ?_⟩
    rw [List.mem_singleton.1 last_mem]
    exact fun same => absent (same ▸ member)

/-- Inserts or overwrites a field. Returns the type it had before, if any. -/
def insert (fields : FieldMapping) (name : FieldName) (type : TypeRef) :
    Option TypeRef × FieldMapping :=
  ((writeEntry name type fields.entries).1,
    ⟨(writeEntry name type fields.entries).2, nodup_writeEntry name type fields.nodup⟩)

/-- The mapping after a field has been inserted or overwritten. -/
def set (fields : FieldMapping) (name : FieldName) (type : TypeRef) : FieldMapping :=
  (fields.insert name type).2

/-- What became of an inferred field. -/
inductive Outcome where
  /-- The name was new, and the field has been added. -/
  | added
  /-- The name was there already, with the same type. -/
  | confirmed
  /-- The name was there already with another type, which was kept. -/
  | conflict (existing : TypeRef)
  deriving Repr, DecidableEq

/-- Adds a field unless its name is there already. -/
def insertInferred (fields : FieldMapping) (name : FieldName) (type : TypeRef) :
    Outcome × FieldMapping :=
  match fields.get? name.text with
  | none => (.added, fields.set name type)
  | some existing =>
      if existing = type then (.confirmed, fields) else (.conflict existing, fields)

/-- Writes every field of `other` into the mapping, in order. -/
def merge (fields other : FieldMapping) : FieldMapping :=
  other.entries.foldl (fun merged entry => merged.set entry.1 entry.2) fields

/-- The mapping that results from writing the fields in order. -/
def ofList (entries : List (FieldName × TypeRef)) : FieldMapping :=
  entries.foldl (fun fields entry => fields.set entry.1 entry.2) empty

end FieldMapping

end EventFields

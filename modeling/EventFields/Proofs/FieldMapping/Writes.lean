import EventFields.FieldMapping
import EventFields.Proofs.FieldMapping.FirstOccurrence
import Mathlib.Data.List.Perm.Subperm

/-!
# Sequences of writes

Every operation on a field mapping is a sequence of writes of two kinds: some
overwrite the type that a name has, the others keep it.  Both append a name
that is not there.  What a sequence leaves behind is therefore described by two
rules: names stand where they were first written, by either kind, and a name
has the type of its last overwriting write or, if there is none, the type of
its first keeping write.
-/

namespace EventFields.FieldMapping

/-! ## One write -/

theorem nodup_names (fields : FieldMapping) : fields.names.Nodup :=
  fields.nodup

@[simp] theorem names_empty : empty.names = [] := rfl

@[simp] theorem get?_empty (name : String) : empty.get? name = none := rfl

theorem get?_eq_none_iff {fields : FieldMapping} {name : FieldName} :
    fields.get? name.text = none ↔ name ∉ fields.names := by
  simp only [get?, names, Option.map_eq_none_iff, List.find?_eq_none, List.mem_map,
    decide_eq_true_eq, not_exists, not_and]
  constructor
  · rintro absent entry member rfl
    exact absent entry member rfl
  · intro absent entry member same
    exact absent entry member (Name.ext same)

theorem exists_get?_of_mem {fields : FieldMapping} {name : FieldName}
    (member : name ∈ fields.names) : ∃ type, fields.get? name.text = some type := by
  cases held : fields.get? name.text with
  | none => exact absurd member (get?_eq_none_iff.1 held)
  | some type => exact ⟨type, rfl⟩

theorem names_set (fields : FieldMapping) (name : FieldName) (type : TypeRef) :
    (fields.set name type).names =
      if name ∈ fields.names then fields.names else fields.names ++ [name] :=
  names_writeEntry name type fields.entries

theorem find?_writeEntry (name : FieldName) (type : TypeRef) (sought : String)
    (entries : List (FieldName × TypeRef)) :
    ((writeEntry name type entries).2.find? (·.1.text = sought)).map Prod.snd =
      if name.text = sought then some type
      else (entries.find? (·.1.text = sought)).map Prod.snd := by
  induction entries with
  | nil => by_cases same : name.text = sought <;> simp [writeEntry, same]
  | cons entry rest ih =>
      simp only [writeEntry]
      by_cases here : entry.1 = name
      · subst here
        by_cases same : entry.1.text = sought <;> simp [same]
      · simp only [here, if_false]
        by_cases found : entry.1.text = sought
        · have differ : name.text ≠ sought := by
            rintro rfl
            exact here (Name.ext found)
          simp [found, differ]
        · simp only [List.find?_cons, found, decide_false]
          exact ih

theorem get?_set (fields : FieldMapping) (name : FieldName) (type : TypeRef) (sought : String) :
    (fields.set name type).get? sought =
      if name.text = sought then some type else fields.get? sought :=
  find?_writeEntry name type sought fields.entries

/-- An inferred field is added exactly if its name is new. -/
theorem insertInferred_snd (fields : FieldMapping) (name : FieldName) (type : TypeRef) :
    (fields.insertInferred name type).2 =
      if name ∈ fields.names then fields else fields.set name type := by
  simp only [insertInferred]
  by_cases present : name ∈ fields.names
  · obtain ⟨existing, held⟩ := exists_get?_of_mem present
    by_cases same : existing = type <;> simp [held, present, same]
  · simp [get?_eq_none_iff.2 present, present]

/-! ## Fields and lookups -/

/-- The fields of a mapping are what is found under their names. -/
theorem mem_entries_iff {fields : FieldMapping} {entry : FieldName × TypeRef} :
    entry ∈ fields.entries ↔ fields.get? entry.1.text = some entry.2 := by
  obtain ⟨entries, nodup⟩ := fields
  simp only [get?]
  induction entries with
  | nil => simp
  | cons first rest ih =>
      obtain ⟨fresh, restNodup⟩ := List.nodup_cons.1 nodup
      by_cases same : first.1 = entry.1
      · have absent : entry ∉ rest := fun member => fresh (same ▸ List.mem_map_of_mem member)
        simp [same, absent, Prod.ext_iff, eq_comm]
      · have differ : first.1.text ≠ entry.1.text := fun equal => same (Name.ext equal)
        have other : entry ≠ first := fun equal => same (congrArg Prod.fst equal.symm)
        simpa [differ, other] using ih restNodup

theorem mem_names_iff_isSome {fields : FieldMapping} {name : FieldName} :
    name ∈ fields.names ↔ (fields.get? name.text).isSome = true := by
  rw [← not_iff_not, ← get?_eq_none_iff]
  simp

/-- Mappings have the same fields, in any order, exactly if they give the same
types to the same names. -/
theorem sameFields_iff {left right : FieldMapping} :
    left.sameFields right = true ↔
      ∀ name : FieldName, left.get? name.text = right.get? name.text := by
  simp only [sameFields, Bool.and_eq_true, decide_eq_true_eq, List.all_eq_true]
  constructor
  · rintro ⟨sameSize, given⟩ name
    have included : left.names ⊆ right.names := by
      intro name member
      obtain ⟨entry, held, rfl⟩ := List.mem_map.1 member
      rw [mem_names_iff_isSome, given entry held]
      rfl
    -- As many distinct names on both sides: none is left over on the right.
    have permuted : left.names.Perm right.names := by
      apply (List.subperm_of_subset left.nodup_names included).perm_of_length_le
      simpa [names, size] using Nat.le_of_eq sameSize.symm
    cases held : left.get? name.text with
    | some type => exact (given (name, type) (mem_entries_iff.2 held)).symm
    | none =>
        rw [get?_eq_none_iff, permuted.mem_iff] at held
        exact (get?_eq_none_iff.2 held).symm
  · intro same
    have permuted : left.names.Perm right.names := by
      rw [List.perm_ext_iff_of_nodup left.nodup_names right.nodup_names]
      intro name
      rw [mem_names_iff_isSome, mem_names_iff_isSome, same]
    refine ⟨by simpa [names, size] using permuted.length_eq, ?_⟩
    intro entry member
    rw [← same]
    exact mem_entries_iff.1 member

/-- A mapping is determined by its names in order and by what is found under them. -/
theorem eq_of_names_of_get? {left right : FieldMapping} (sameNames : left.names = right.names)
    (sameTypes : ∀ name, left.get? name = right.get? name) : left = right := by
  have entries_eq (fields : FieldMapping) : fields.entries =
      fields.names.map fun name => (name, (fields.get? name.text).getD .void) := by
    rw [names, List.map_map]
    refine (List.map_id fields.entries).symm.trans (List.map_congr_left fun entry member => ?_)
    simp [mem_entries_iff.1 member]
  apply ext
  rw [entries_eq left, entries_eq right, sameNames]
  simp only [sameTypes]

/-! ## Many writes -/

/-- One write to a mapping. -/
inductive Write where
  /-- Gives a name a type, whatever it had. -/
  | overwrite (name : FieldName) (type : TypeRef)
  /-- Gives a name a type unless it has one. -/
  | keep (name : FieldName) (type : TypeRef)

namespace Write

/-- The name that is written. -/
def name : Write → FieldName
  | overwrite name _ => name
  | keep name _ => name

/-- The type that an overwriting write gives to a name. -/
def overwrites? (sought : String) : Write → Option TypeRef
  | overwrite name type => if name.text = sought then some type else none
  | keep _ _ => none

/-- The type that a keeping write offers for a name. -/
def keeps? (sought : String) : Write → Option TypeRef
  | overwrite _ _ => none
  | keep name type => if name.text = sought then some type else none

end Write

/-- The mapping after one write. -/
def write (fields : FieldMapping) : Write → FieldMapping
  | .overwrite name type => fields.set name type
  | .keep name type => (fields.insertInferred name type).2

/-- The mapping after writes in order. -/
def writeAll (fields : FieldMapping) (writes : List Write) : FieldMapping :=
  writes.foldl write fields

/-- The type of the last write that overwrites a name. -/
def lastOverwrite? (sought : String) (writes : List Write) : Option TypeRef :=
  writes.reverse.findSome? (·.overwrites? sought)

/-- The type of the first write that would keep what a name has. -/
def firstKeep? (sought : String) (writes : List Write) : Option TypeRef :=
  writes.findSome? (·.keeps? sought)

theorem writeAll_append (fields : FieldMapping) (left right : List Write) :
    fields.writeAll (left ++ right) = (fields.writeAll left).writeAll right :=
  List.foldl_append

theorem lastOverwrite?_append (sought : String) (left right : List Write) :
    lastOverwrite? sought (left ++ right) =
      (lastOverwrite? sought right).or (lastOverwrite? sought left) := by
  rw [lastOverwrite?, List.reverse_append, List.findSome?_append]
  rfl

theorem firstKeep?_append (sought : String) (left right : List Write) :
    firstKeep? sought (left ++ right) =
      (firstKeep? sought left).or (firstKeep? sought right) :=
  List.findSome?_append

theorem lastOverwrite?_flatMap {α : Type} (sought : String) (values : List α)
    (parts : α → List Write) :
    lastOverwrite? sought (values.flatMap parts) =
      values.reverse.findSome? fun value => lastOverwrite? sought (parts value) := by
  induction values using List.reverseRecOn with
  | nil => rfl
  | append_singleton values value ih =>
      rw [List.flatMap_append, List.flatMap_singleton, lastOverwrite?_append, ih,
        List.reverse_concat, List.findSome?_cons]
      cases lastOverwrite? sought (parts value) <;> rfl

theorem firstKeep?_flatMap {α : Type} (sought : String) (values : List α)
    (parts : α → List Write) :
    firstKeep? sought (values.flatMap parts) =
      values.findSome? fun value => firstKeep? sought (parts value) := by
  induction values with
  | nil => rfl
  | cons value values ih =>
      rw [List.flatMap_cons, firstKeep?_append, ih, List.findSome?_cons]
      cases firstKeep? sought (parts value) <;> rfl

theorem names_write (fields : FieldMapping) (step : Write) :
    (fields.write step).names =
      if step.name ∈ fields.names then fields.names else fields.names ++ [step.name] := by
  cases step with
  | overwrite name type => exact names_set fields name type
  | keep name type =>
      rw [write, insertInferred_snd, Write.name]
      by_cases present : name ∈ fields.names
      · simp [present]
      · simp [present, names_set]

theorem get?_write (fields : FieldMapping) (step : Write) (sought : String) :
    (fields.write step).get? sought =
      ((step.overwrites? sought).or (fields.get? sought)).or (step.keeps? sought) := by
  cases step with
  | overwrite name type =>
      rw [write, get?_set, Write.overwrites?, Write.keeps?]
      by_cases same : name.text = sought <;> simp [same]
  | keep name type =>
      rw [write, insertInferred_snd, Write.overwrites?, Write.keeps?, Option.none_or]
      by_cases present : name ∈ fields.names
      · obtain ⟨existing, held⟩ := exists_get?_of_mem present
        by_cases same : name.text = sought
        · subst same
          simp [present, held]
        · simp [present, same]
      · by_cases same : name.text = sought
        · subst same
          simp [present, get?_set, get?_eq_none_iff.2 present]
        · simp [present, get?_set, same]

/-- Names stand in the order in which they were first written. -/
theorem names_writeAll (fields : FieldMapping) (writes : List Write) :
    (fields.writeAll writes).names = (fields.names ++ writes.map Write.name).eraseDups := by
  induction writes using List.reverseRecOn with
  | nil =>
      rw [List.map_nil, List.append_nil, eraseDups_of_nodup fields.nodup_names]
      rfl
  | append_singleton writes step ih =>
      have last : (fields.writeAll (writes ++ [step])) = (fields.writeAll writes).write step :=
        writeAll_append fields writes [step]
      rw [last, names_write, ih, List.map_append, List.map_singleton, ← List.append_assoc,
        eraseDups_concat]
      simp

/-- A name has the type of the last write that overwrites it, else the type that
it had, else the type of the first write that would have kept one. -/
theorem get?_writeAll (fields : FieldMapping) (writes : List Write) (sought : String) :
    (fields.writeAll writes).get? sought =
      ((lastOverwrite? sought writes).or (fields.get? sought)).or (firstKeep? sought writes) := by
  -- From the right, since the last write decides.
  induction writes using List.reverseRecOn with
  | nil => simp [writeAll, lastOverwrite?, firstKeep?]
  | append_singleton writes step ih =>
      have last : (fields.writeAll (writes ++ [step])) = (fields.writeAll writes).write step :=
        writeAll_append fields writes [step]
      have overwrites : lastOverwrite? sought [step] = step.overwrites? sought :=
        List.findSome?_singleton
      have keeps : firstKeep? sought [step] = step.keeps? sought := List.findSome?_singleton
      rw [last, get?_write, ih, lastOverwrite?_append, firstKeep?_append, overwrites, keeps]
      simp only [Option.or_assoc]

/-! ## Operations as writes -/

/-- Fields as overwriting writes. -/
def overwrites (entries : List (FieldName × TypeRef)) : List Write :=
  entries.map fun entry => .overwrite entry.1 entry.2

@[simp] theorem map_name_overwrites (entries : List (FieldName × TypeRef)) :
    (overwrites entries).map Write.name = entries.map Prod.fst := by
  rw [overwrites, List.map_map]
  rfl

@[simp] theorem firstKeep?_overwrites (entries : List (FieldName × TypeRef)) (sought : String) :
    firstKeep? sought (overwrites entries) = none := by
  rw [firstKeep?, overwrites, List.findSome?_map]
  exact List.findSome?_eq_none_iff.2 fun _ _ => rfl

/-- The last field with a name is the last write of the name. -/
theorem lastOverwrite?_overwrites_eq (entries : List (FieldName × TypeRef)) (sought : String) :
    lastOverwrite? sought (overwrites entries) =
      (entries.reverse.find? (·.1.text = sought)).map Prod.snd := by
  rw [lastOverwrite?, overwrites, ← List.map_reverse, List.findSome?_map]
  induction entries.reverse with
  | nil => rfl
  | cons entry rest ih =>
      by_cases same : entry.1.text = sought
      · simp [Write.overwrites?, same]
      · simpa [Write.overwrites?, same] using ih

/-- If no name is written twice, the last write of a name is the only one. -/
theorem lastOverwrite?_overwrites {entries : List (FieldName × TypeRef)}
    (nodup : (entries.map Prod.fst).Nodup) (sought : String) :
    lastOverwrite? sought (overwrites entries) =
      (entries.find? (·.1.text = sought)).map Prod.snd := by
  induction entries with
  | nil => rfl
  | cons entry rest ih =>
      obtain ⟨fresh, restNodup⟩ := List.nodup_cons.1 nodup
      have first : lastOverwrite? sought [.overwrite entry.1 entry.2] =
          if entry.1.text = sought then some entry.2 else none := List.findSome?_singleton
      have split : lastOverwrite? sought (overwrites (entry :: rest)) =
          (lastOverwrite? sought (overwrites rest)).or
            (lastOverwrite? sought [.overwrite entry.1 entry.2]) :=
        lastOverwrite?_append sought [.overwrite entry.1 entry.2] (overwrites rest)
      rw [split, first, ih restNodup]
      by_cases same : entry.1.text = sought
      · have later : rest.find? (·.1.text = sought) = none := by
          rw [List.find?_eq_none]
          intro other member
          have differ : other.1 ≠ entry.1 := fun equal =>
            fresh (equal ▸ List.mem_map_of_mem member)
          simpa [← same] using fun equal => differ (Name.ext equal)
        simp [same, later]
      · simp [same]

theorem merge_eq_writeAll (fields other : FieldMapping) :
    fields.merge other = fields.writeAll (overwrites other.entries) := by
  rw [writeAll, overwrites, List.foldl_map]
  rfl

theorem names_merge (fields other : FieldMapping) :
    (fields.merge other).names = (fields.names ++ other.names).eraseDups := by
  rw [merge_eq_writeAll, names_writeAll, map_name_overwrites]
  rfl

theorem get?_merge (fields other : FieldMapping) (sought : String) :
    (fields.merge other).get? sought = (other.get? sought).or (fields.get? sought) := by
  rw [merge_eq_writeAll, get?_writeAll, firstKeep?_overwrites,
    lastOverwrite?_overwrites other.nodup, Option.or_none]
  rfl

/-- Writing the fields of a mapping from nothing gives the mapping again. -/
theorem empty_merge (fields : FieldMapping) : empty.merge fields = fields := by
  apply eq_of_names_of_get?
  · rw [names_merge, names_empty, List.nil_append, eraseDups_of_nodup fields.nodup_names]
  · intro name
    rw [get?_merge, get?_empty, Option.or_none]

theorem ofList_eq_writeAll (pairs : List (FieldName × TypeRef)) :
    ofList pairs = empty.writeAll (overwrites pairs) := by
  rw [ofList, writeAll, overwrites, List.foldl_map]
  rfl

/-- A mapping from pairs has the names in the order in which they come first. -/
theorem names_ofList (pairs : List (FieldName × TypeRef)) :
    (ofList pairs).names = (pairs.map Prod.fst).eraseDups := by
  rw [ofList_eq_writeAll, names_writeAll, names_empty, List.nil_append, map_name_overwrites]

/-- A mapping from pairs has, for each name, the type that comes last. -/
theorem get?_ofList (pairs : List (FieldName × TypeRef)) (sought : String) :
    (ofList pairs).get? sought = (pairs.reverse.find? (·.1.text = sought)).map Prod.snd := by
  rw [ofList_eq_writeAll, get?_writeAll, get?_empty, Option.or_none, firstKeep?_overwrites,
    Option.or_none, lastOverwrite?_overwrites_eq]

end EventFields.FieldMapping

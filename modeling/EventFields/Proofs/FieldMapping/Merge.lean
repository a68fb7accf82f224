import EventFields.Proofs.FieldMapping.Writes

/-!
# The algebra of merging

Merging takes places from the left and types from the right.  A mapping is
determined by its names in order and by what is found under them, so each law is
proved twice: names are those of an append without later occurrences, and lookups
fall back from right to left.
-/

namespace EventFields.FieldMapping

theorem merge_empty (fields : FieldMapping) : fields.merge empty = fields := rfl

/-- Merging is associative, with the order of the fields. -/
theorem merge_assoc (first second third : FieldMapping) :
    (first.merge second).merge third = first.merge (second.merge third) := by
  apply eq_of_names_of_get?
  · rw [names_merge, names_merge, names_merge, names_merge, eraseDups_eraseDups_append,
      eraseDups_append_eraseDups, List.append_assoc]
  · intro sought
    rw [get?_merge, get?_merge, get?_merge, get?_merge, Option.or_assoc]

/-- A mapping that is merged into itself stays as it is. -/
theorem merge_self (fields : FieldMapping) : fields.merge fields = fields := by
  apply eq_of_names_of_get?
  · have nothingNew : fields.names.removeAll fields.names = [] := by simp [List.removeAll]
    rw [names_merge, List.eraseDups_append, nothingNew, eraseDups_of_nodup fields.nodup_names]
    exact List.append_nil fields.names
  · intro sought
    rw [get?_merge, Option.or_self]

/-- Merging respects equality in any order on both sides. -/
theorem sameFields_merge {left left' right right' : FieldMapping}
    (sameLeft : left.sameFields left' = true) (sameRight : right.sameFields right' = true) :
    (left.merge right).sameFields (left'.merge right') = true := by
  rw [sameFields_iff] at *
  intro name
  rw [get?_merge, get?_merge, sameLeft, sameRight]

/-- Merging is an associative and idempotent combination with the empty mapping as its
identity, with the order of the fields; and it respects equality in any order. -/
theorem merge_laws :
    (∀ first second third : FieldMapping,
      (first.merge second).merge third = first.merge (second.merge third)) ∧
    (∀ fields : FieldMapping,
      fields.merge empty = fields ∧ empty.merge fields = fields ∧
        fields.merge fields = fields) ∧
    (∀ fields other : FieldMapping,
      (fields.merge other).merge other = fields.merge other) ∧
    ∀ left left' right right' : FieldMapping,
      left.sameFields left' = true → right.sameFields right' = true →
        (left.merge right).sameFields (left'.merge right') = true := by
  refine ⟨merge_assoc, ?identity, ?twice, ?respects⟩
  case identity =>
    intro fields
    exact ⟨fields.merge_empty, fields.empty_merge, fields.merge_self⟩
  case twice =>
    intro fields other
    rw [merge_assoc, merge_self]
  case respects =>
    intro left left' right right'
    exact sameFields_merge

/-- Two orders of two fields, into which two orders of two others are merged. -/
theorem merge_laws_reordered :
    let x : FieldName := ⟨"x", by decide⟩
    let y : FieldName := ⟨"y", by decide⟩
    let z : FieldName := ⟨"z", by decide⟩
    let left := ofList [(x, .plain "Int"), (y, .plain "Int")]
    let left' := ofList [(y, .plain "Int"), (x, .plain "Int")]
    let right := ofList [(y, .plain "String"), (z, .plain "Long")]
    let right' := ofList [(z, .plain "Long"), (y, .plain "String")]
    left ≠ left' ∧ left.sameFields left' = true ∧ right.sameFields right' = true ∧
      (left.merge right).sameFields (left'.merge right') = true := by
  intro x y z left left' right right'
  have sameLeft : left.sameFields left' = true := by decide
  have sameRight : right.sameFields right' = true := by decide
  obtain ⟨-, -, -, respects⟩ := merge_laws
  exact ⟨by decide, sameLeft, sameRight, respects left left' right right' sameLeft sameRight⟩

end EventFields.FieldMapping

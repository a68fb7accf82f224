import Mathlib.Data.List.Induction

/-!
# First occurrences

`List.eraseDups` keeps each value where it occurs first.  The order of the
fields in a mapping is that of a list of names without later occurrences; these
lemmas let such lists be built piece by piece from the left.
-/

namespace EventFields

variable {α β : Type} [DecidableEq α]

theorem eraseDups_concat (values : List α) (value : α) :
    (values ++ [value]).eraseDups =
      if value ∈ values then values.eraseDups else values.eraseDups ++ [value] := by
  rw [List.eraseDups_append]
  by_cases member : value ∈ values
  · simp [List.removeAll, member]
  · simp [List.removeAll, member, List.eraseDups_cons]

theorem eraseDups_of_nodup {values : List α} (nodup : values.Nodup) :
    values.eraseDups = values := by
  induction values using List.reverseRecOn with
  | nil => rfl
  | append_singleton values value ih =>
      rw [List.nodup_append] at nodup
      obtain ⟨front, -, apart⟩ := nodup
      have fresh : value ∉ values := fun member => apart value member value (by simp) rfl
      rw [eraseDups_concat, if_neg fresh, ih front]

/-- Later occurrences may be dropped from the right part first. -/
theorem eraseDups_append_eraseDups (left right : List α) :
    (left ++ right.eraseDups).eraseDups = (left ++ right).eraseDups := by
  induction right using List.reverseRecOn with
  | nil => rfl
  | append_singleton right value ih =>
      rw [eraseDups_concat, ← List.append_assoc, eraseDups_concat]
      by_cases member : value ∈ right
      · simp [member, ih]
      · rw [if_neg member, ← List.append_assoc, eraseDups_concat, ih]
        simp

/-- Later occurrences may be dropped from the left part first. -/
theorem eraseDups_eraseDups_append (left right : List α) :
    (left.eraseDups ++ right).eraseDups = (left ++ right).eraseDups := by
  induction right using List.reverseRecOn with
  | nil =>
      rw [List.append_nil, List.append_nil]
      exact eraseDups_append_eraseDups [] left
  | append_singleton right value ih =>
      rw [← List.append_assoc, ← List.append_assoc, eraseDups_concat, eraseDups_concat, ih]
      simp

theorem eraseDups_flatMap_eraseDups (values : List β) (parts : β → List α) :
    (values.flatMap fun value => (parts value).eraseDups).eraseDups =
      (values.flatMap parts).eraseDups := by
  induction values using List.reverseRecOn with
  | nil => rfl
  | append_singleton values value ih =>
      rw [List.flatMap_append, List.flatMap_append, List.flatMap_singleton,
        List.flatMap_singleton, eraseDups_append_eraseDups, ← eraseDups_eraseDups_append, ih,
        eraseDups_eraseDups_append]

end EventFields

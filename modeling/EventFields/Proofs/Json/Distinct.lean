import EventFields.Json.Basic
import Mathlib.Data.List.Basic

/-!
# Values with distinct keys

`distinct` leaves one member for each key of an object, at every depth.  Members
that already have distinct keys and values stay as they are; hence doing it again
changes nothing.
-/

namespace EventFields.Json

variable {key : String} {value : Json} {members written : List (String × Json)}

/-! ## One member -/

theorem putMember_of_not_mem (fresh : key ∉ members.map Prod.fst) :
    putMember key value members = members ++ [(key, value)] := by
  induction members with
  | nil => rfl
  | cons member rest ih =>
      simp only [List.map_cons, List.mem_cons, not_or] at fresh
      simp [putMember, Ne.symm fresh.1, ih fresh.2]

theorem map_fst_putMember_of_mem (present : key ∈ members.map Prod.fst) :
    (putMember key value members).map Prod.fst = members.map Prod.fst := by
  induction members with
  | nil => simp at present
  | cons member rest ih =>
      by_cases same : member.1 = key
      · simp [putMember, same]
      · have later : key ∈ rest.map Prod.fst := by
          rcases List.mem_cons.1 present with here | later
          · exact absurd here.symm same
          · exact later
        simp [putMember, same, ih later]

theorem nodup_putMember (nodup : (members.map Prod.fst).Nodup) :
    ((putMember key value members).map Prod.fst).Nodup := by
  by_cases present : key ∈ members.map Prod.fst
  · rw [map_fst_putMember_of_mem present]
    exact nodup
  · rw [putMember_of_not_mem present, List.map_append, List.nodup_append]
    refine ⟨nodup, by simp, fun earlier among last last_among => ?_⟩
    rintro rfl
    rw [List.mem_singleton.1 last_among] at among
    exact present among

theorem mem_of_mem_putMember {member : String × Json}
    (among : member ∈ putMember key value members) :
    member = (key, value) ∨ member ∈ members := by
  induction members with
  | nil => simpa [putMember] using among
  | cons first rest ih =>
      simp only [putMember] at among
      split at among
      · rcases List.mem_cons.1 among with rfl | later
        · exact .inl rfl
        · exact .inr (List.mem_cons_of_mem first later)
      · rcases List.mem_cons.1 among with rfl | later
        · exact .inr List.mem_cons_self
        · exact (ih later).imp_right (List.mem_cons_of_mem first)

/-! ## Members -/

theorem nodup_distinctMembers (nodup : (written.map Prod.fst).Nodup) :
    ((distinctMembers members written).map Prod.fst).Nodup := by
  induction members generalizing written with
  | nil => exact nodup
  | cons member rest ih => exact ih (nodup_putMember nodup)

/-- Members with new keys and settled values are appended as they are. -/
theorem distinctMembers_eq_append (nodup : ((written ++ members).map Prod.fst).Nodup)
    (settled : ∀ member ∈ members, member.2.distinct = member.2) :
    distinctMembers members written = written ++ members := by
  induction members generalizing written with
  | nil => simp [distinctMembers]
  | cons member rest ih =>
      obtain ⟨first, others⟩ := List.forall_mem_cons.1 settled
      have fresh : member.1 ∉ written.map Prod.fst := by
        rw [List.map_append, List.nodup_append] at nodup
        exact fun present => nodup.2.2 _ present _ (by simp) rfl
      rw [List.append_cons] at nodup
      rw [distinctMembers, first, putMember_of_not_mem fresh, ih nodup others]
      simp

theorem distinct_obj_eq (nodup : (members.map Prod.fst).Nodup)
    (settled : ∀ member ∈ members, member.2.distinct = member.2) :
    (obj members).distinct = obj members := by
  rw [distinct, distinctMembers_eq_append (by simpa using nodup) settled, List.nil_append]

/-! ## Whole values -/

theorem distinctElements_eq_map (elements : List Json) :
    distinctElements elements = elements.map distinct := by
  induction elements with
  | nil => rfl
  | cons element rest ih => rw [distinctElements, ih, List.map_cons]

theorem distinct_arr_eq {elements : List Json}
    (settled : ∀ element ∈ elements, element.distinct = element) :
    (arr elements).distinct = arr elements := by
  rw [distinct, distinctElements_eq_map, List.map_congr_left settled, List.map_id']

mutual

/-- A value with distinct keys has them already. -/
theorem distinct_distinct : (value : Json) → value.distinct.distinct = value.distinct
  | arr elements => distinct_arr_eq (settled_distinctElements elements)
  | obj members =>
      distinct_obj_eq (nodup_distinctMembers .nil) (settled_distinctMembers members [] (by simp))
  | null => rfl
  | bool _ => rfl
  | int _ => rfl
  | float _ => rfl
  | str _ => rfl

theorem settled_distinctElements : (elements : List Json) →
    ∀ element ∈ distinctElements elements, element.distinct = element
  | [] => by simp [distinctElements]
  | element :: rest => by
      rw [distinctElements]
      exact List.forall_mem_cons.2 ⟨distinct_distinct element, settled_distinctElements rest⟩

theorem settled_distinctMembers : (members written : List (String × Json)) →
    (∀ member ∈ written, member.2.distinct = member.2) →
    ∀ member ∈ distinctMembers members written, member.2.distinct = member.2
  | [], _, settled => settled
  | (key, value) :: rest, written, settled => by
      apply settled_distinctMembers rest
      intro member among
      rcases mem_of_mem_putMember among with rfl | earlier
      · exact distinct_distinct value
      · exact settled member earlier

end

end EventFields.Json

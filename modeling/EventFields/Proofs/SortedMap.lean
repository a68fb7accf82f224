import EventFields.SortedMap

/-!
# Lookup in sorted maps

A map is determined by what it holds.  Its keys ascend strictly, so each key has
at most one entry, and the place of every entry is fixed.  Equations between maps
can therefore be proved one lookup at a time.
-/

namespace EventFields.SortedMap

variable {κ ν : Type} [TextKey κ]

/-! ## Insertion -/

theorem text_eq_of_not_lt {left right : κ}
    (notBefore : ¬ TextKey.text left < TextKey.text right)
    (notAfter : ¬ TextKey.text right < TextKey.text left) :
    TextKey.text left = TextKey.text right :=
  String.le_antisymm (String.not_lt.1 notAfter) (String.not_lt.1 notBefore)

theorem find?_insertEntry (key : κ) (value : ν) (sought : String) (entries : List (κ × ν)) :
    ((insertEntry key value entries).find? fun entry => TextKey.text entry.1 = sought).map
        Prod.snd =
      if TextKey.text key = sought then some value
      else (entries.find? fun entry => TextKey.text entry.1 = sought).map Prod.snd := by
  induction entries with
  | nil => by_cases same : TextKey.text key = sought <;> simp [insertEntry, same]
  | cons entry rest ih =>
      unfold insertEntry
      split
      · by_cases same : TextKey.text key = sought <;> simp [same]
      · next notBefore =>
        split
        · next after =>
          by_cases found : TextKey.text entry.1 = sought
          · have differ : TextKey.text key ≠ sought := by
              rintro rfl
              rw [found] at after
              exact String.lt_irrefl _ after
            simp [found, differ]
          · simp only [List.find?_cons, found, decide_false]
            exact ih
        · next notAfter =>
          have same := text_eq_of_not_lt notBefore notAfter
          by_cases found : TextKey.text key = sought
          · simp [found]
          · have other : TextKey.text entry.1 ≠ sought := by
              rw [← same]
              exact found
            simp [found, other]

theorem get?_insert (map : SortedMap κ ν) (key : κ) (value : ν) (sought : String) :
    (map.insert key value).get? sought =
      if TextKey.text key = sought then some value else map.get? sought :=
  find?_insertEntry key value sought map.entries

/-! ## Replacement -/

/-- What is replaced in ascending entries is what is found there. -/
theorem replaced?_eq_find? {key : κ} {entries : List (κ × ν)}
    (ascending : entries.Pairwise fun left right =>
      TextKey.text left.1 < TextKey.text right.1) :
    replaced? key entries =
      (entries.find? fun entry => TextKey.text entry.1 = TextKey.text key).map Prod.snd := by
  induction entries with
  | nil => rfl
  | cons head tail ih =>
      obtain ⟨headFirst, tailAscending⟩ := List.pairwise_cons.1 ascending
      unfold replaced?
      split
      · next before =>
        have absent : ∀ entry ∈ head :: tail, TextKey.text entry.1 ≠ TextKey.text key := by
          intro entry member same
          rw [← same] at before
          rcases List.mem_cons.1 member with rfl | later
          · exact String.lt_irrefl _ before
          · exact String.lt_irrefl _ (String.lt_trans before (headFirst entry later))
        rw [List.find?_eq_none.2 (by simpa using absent), Option.map_none]
      · next notBefore =>
        split
        · next after =>
          have differ : TextKey.text head.1 ≠ TextKey.text key := by
            intro same
            rw [same] at after
            exact String.lt_irrefl _ after
          rw [ih tailAscending, List.find?_cons_of_neg (by simpa using differ)]
        · next notAfter =>
          have same := text_eq_of_not_lt notBefore notAfter
          simp [same]

theorem replace_eq (map : SortedMap κ ν) (key : κ) (value : ν) :
    map.replace key value = (map.get? (TextKey.text key), map.insert key value) := by
  rw [replace, replaced?_eq_find? map.ascending]
  rfl

/-! ## Entries -/

/-- In ascending entries, an entry is the first one with its key. -/
theorem find?_eq_some_iff_mem {entries : List (κ × ν)} {entry : κ × ν}
    (ascending : entries.Pairwise fun left right =>
      TextKey.text left.1 < TextKey.text right.1) :
    entries.find? (fun other => TextKey.text other.1 = TextKey.text entry.1) = some entry ↔
      entry ∈ entries := by
  induction entries with
  | nil => simp
  | cons head tail ih =>
      obtain ⟨headFirst, tailAscending⟩ := List.pairwise_cons.1 ascending
      by_cases same : TextKey.text head.1 = TextKey.text entry.1
      · simp only [List.find?_cons, same, decide_true, Option.some.injEq]
        constructor
        · rintro rfl
          exact List.mem_cons_self
        · intro member
          rcases List.mem_cons.1 member with rfl | later
          · rfl
          · have before := headFirst entry later
            rw [same] at before
            exact absurd before (String.lt_irrefl _)
      · simp only [List.find?_cons, same, decide_false]
        rw [ih tailAscending]
        constructor
        · exact List.mem_cons_of_mem head
        · intro member
          rcases List.mem_cons.1 member with rfl | later
          · exact absurd rfl same
          · exact later

theorem mem_entries_iff {map : SortedMap κ ν} {entry : κ × ν} :
    entry ∈ map.entries ↔ map.get? (TextKey.text entry.1) = some entry.2 := by
  rw [← find?_eq_some_iff_mem map.ascending, get?, Option.map_eq_some_iff]
  constructor
  · intro found
    exact ⟨entry, found, rfl⟩
  · rintro ⟨other, found, sameValue⟩
    have sameText : TextKey.text other.1 = TextKey.text entry.1 := by
      simpa using List.find?_some found
    have same : other = entry := Prod.ext (TextKey.text_injective sameText) sameValue
    rw [found, same]

theorem mem_of_mem_insert {map : SortedMap κ ν} {key : κ} {value : ν} {entry : κ × ν}
    (member : entry ∈ (map.insert key value).entries) :
    entry = (key, value) ∨ entry ∈ map.entries :=
  mem_of_mem_insertEntry member

/-- Maps that hold the same are the same. -/
theorem eq_of_get? {left right : SortedMap κ ν}
    (same : ∀ text, left.get? text = right.get? text) : left = right := by
  have nodup (map : SortedMap κ ν) : map.entries.Nodup := by
    apply map.ascending.imp
    rintro entry other before rfl
    exact String.lt_irrefl _ before
  apply ext
  apply List.Perm.eq_of_pairwise ?_ left.ascending right.ascending
  · rw [List.perm_ext_iff_of_nodup (nodup left) (nodup right)]
    intro entry
    rw [mem_entries_iff, mem_entries_iff, same]
  · intro entry other _ _ before after
    exact absurd (String.lt_trans before after) (String.lt_irrefl _)

/-! ## Entries in order -/

theorem insertEntry_eq_append {key : κ} {value : ν} {entries : List (κ × ν)}
    (last : ∀ entry ∈ entries, TextKey.text entry.1 < TextKey.text key) :
    insertEntry key value entries = entries ++ [(key, value)] := by
  induction entries with
  | nil => rfl
  | cons entry rest ih =>
      obtain ⟨before, others⟩ := List.forall_mem_cons.1 last
      have notAfter : ¬ TextKey.text key < TextKey.text entry.1 := fun after =>
        String.lt_irrefl _ (String.lt_trans before after)
      rw [insertEntry, if_neg notAfter, if_pos before, ih others, List.cons_append]

/-- Ascending entries behind those of a map are appended one by one. -/
theorem entries_foldl_insert {entries : List (κ × ν)} {map : SortedMap κ ν}
    (ascending : (map.entries ++ entries).Pairwise fun left right =>
      TextKey.text left.1 < TextKey.text right.1) :
    (entries.foldl (fun map entry => map.insert entry.1 entry.2) map).entries =
      map.entries ++ entries := by
  induction entries generalizing map with
  | nil => simp
  | cons entry rest ih =>
      have last : ∀ earlier ∈ map.entries, TextKey.text earlier.1 < TextKey.text entry.1 :=
        fun earlier member => (List.pairwise_append.1 ascending).2.2 earlier member entry (by simp)
      have appended : (map.insert entry.1 entry.2).entries = map.entries ++ [entry] :=
        insertEntry_eq_append last
      rw [List.append_cons, ← appended] at ascending
      rw [List.foldl_cons, ih ascending, appended, List.append_assoc, List.singleton_append]

/-- A map is made of its entries. -/
theorem ofList_entries (map : SortedMap κ ν) : ofList map.entries = map := by
  apply ext
  rw [ofList, entries_foldl_insert (by simpa [empty] using map.ascending)]
  rfl

end EventFields.SortedMap

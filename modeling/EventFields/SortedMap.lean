import EventFields.Name

/-!
# Maps in key order

A finite map as a list of entries whose keys ascend. Keys are compared by a
text that tells them apart; writing to a key replaces what it held.
-/

namespace EventFields

/-- Keys that are ordered, and told apart, by a text. -/
class TextKey (κ : Type) where
  text : κ → String
  text_injective : ∀ {left right : κ}, text left = text right → left = right

instance : TextKey String := ⟨id, id⟩

instance {kind : NameKind} : TextKey (Name kind) := ⟨Name.text, Name.ext⟩

/-- A finite map whose entries ascend strictly by key. -/
structure SortedMap (κ ν : Type) [TextKey κ] where
  entries : List (κ × ν)
  ascending : entries.Pairwise fun left right => TextKey.text left.1 < TextKey.text right.1

namespace SortedMap

variable {κ ν : Type} [TextKey κ]

/-- The map without entries. -/
def empty : SortedMap κ ν := ⟨[], .nil⟩

instance : Inhabited (SortedMap κ ν) := ⟨empty⟩

@[ext] theorem ext {left right : SortedMap κ ν} (same : left.entries = right.entries) :
    left = right := by
  cases left
  cases right
  cases same
  rfl

instance [DecidableEq κ] [DecidableEq ν] : DecidableEq (SortedMap κ ν) := fun left right =>
  if same : left.entries = right.entries then .isTrue (ext same)
  else .isFalse fun equal => same (equal ▸ rfl)

/-- The number of keys. -/
def size (map : SortedMap κ ν) : Nat :=
  map.entries.length

/-- What the map holds under the key with a given text. -/
def get? (map : SortedMap κ ν) (text : String) : Option ν :=
  (map.entries.find? fun entry => TextKey.text entry.1 = text).map Prod.snd

/-- Puts an entry into its place in an ascending list. -/
def insertEntry (key : κ) (value : ν) : List (κ × ν) → List (κ × ν)
  | [] => [(key, value)]
  | entry :: rest =>
      if TextKey.text key < TextKey.text entry.1 then
        (key, value) :: entry :: rest
      else if TextKey.text entry.1 < TextKey.text key then
        entry :: insertEntry key value rest
      else
        (key, value) :: rest

theorem mem_of_mem_insertEntry {key : κ} {value : ν} {entry : κ × ν} :
    {entries : List (κ × ν)} → entry ∈ insertEntry key value entries →
      entry = (key, value) ∨ entry ∈ entries
  | [], member => by
      simpa [insertEntry] using member
  | head :: tail, member => by
      unfold insertEntry at member
      split at member
      · simpa using member
      · split at member
        · rcases List.mem_cons.1 member with same | member
          · exact .inr (same ▸ List.mem_cons_self)
          · rcases mem_of_mem_insertEntry member with same | member
            · exact .inl same
            · exact .inr (List.mem_cons_of_mem _ member)
        · rcases List.mem_cons.1 member with same | member
          · exact .inl same
          · exact .inr (List.mem_cons_of_mem _ member)

theorem ascending_insertEntry (key : κ) (value : ν) {entries : List (κ × ν)}
    (ascending : entries.Pairwise fun left right =>
      TextKey.text left.1 < TextKey.text right.1) :
    (insertEntry key value entries).Pairwise fun left right =>
      TextKey.text left.1 < TextKey.text right.1 := by
  induction entries with
  | nil => simp [insertEntry]
  | cons head tail ih =>
      rw [List.pairwise_cons] at ascending
      unfold insertEntry
      split
      · next before =>
        refine List.pairwise_cons.2 ⟨fun entry member => ?_, List.pairwise_cons.2 ascending⟩
        rcases List.mem_cons.1 member with rfl | member
        · exact before
        · exact String.lt_trans before (ascending.1 entry member)
      · split
        · next after =>
          refine List.pairwise_cons.2 ⟨fun entry member => ?_, ih ascending.2⟩
          rcases mem_of_mem_insertEntry member with rfl | member
          · exact after
          · exact ascending.1 entry member
        · next notBefore notAfter =>
          have same : TextKey.text key = TextKey.text head.1 :=
            String.le_antisymm (String.not_lt.1 notAfter) (String.not_lt.1 notBefore)
          refine List.pairwise_cons.2 ⟨fun entry member => ?_, ascending.2⟩
          rw [same]
          exact ascending.1 entry member

/-- Writes a value under a key, replacing what the key held. -/
def insert (map : SortedMap κ ν) (key : κ) (value : ν) : SortedMap κ ν :=
  ⟨insertEntry key value map.entries, ascending_insertEntry key value map.ascending⟩

/-- What a key holds in an ascending list: what writing to the key replaces there. -/
def replaced? (key : κ) : List (κ × ν) → Option ν
  | [] => none
  | entry :: rest =>
      if TextKey.text key < TextKey.text entry.1 then none
      else if TextKey.text entry.1 < TextKey.text key then replaced? key rest
      else some entry.2

/-- Writes a value under a key. Also returns what the key held before, if anything. -/
def replace (map : SortedMap κ ν) (key : κ) (value : ν) : Option ν × SortedMap κ ν :=
  (replaced? key map.entries, map.insert key value)

/-- The map with the given entries; the last one of a key counts. -/
def ofList (entries : List (κ × ν)) : SortedMap κ ν :=
  entries.foldl (fun map entry => map.insert entry.1 entry.2) empty

end SortedMap

end EventFields

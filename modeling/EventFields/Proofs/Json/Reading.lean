import EventFields.Json.Reader
import EventFields.Proofs.TypeRef.RoundTrip
import Mathlib.Data.List.Forall2

/-!
# What readers read

A draft holds a value if it has no flaws and is a draft of that value.  Two things
are said of readers: that every draft of a value reads as a given result, which is
how writing is undone, and that all results have a property, which is how records
come to be well-formed.  Both are brought down to the members of lists and maps and
to the fields of records, in whatever form a record is written.
-/

namespace EventFields.Json

/-! ## Drafts of values -/

namespace Draft

/-- A draft without flaws of a value. -/
def Holds (draft : Draft) (value : Json) : Prop :=
  draft.value? = some value

instance (draft : Draft) (value : Json) : Decidable (draft.Holds value) :=
  inferInstanceAs (Decidable (draft.value? = some value))

/-- A member whose draft holds its value. -/
def HoldsMember (draft : String × Draft) (member : String × Json) : Prop :=
  draft.1 = member.1 ∧ draft.2.Holds member.2

theorem elementValues?_eq_some_iff {drafts : List Draft} {values : List Json} :
    elementValues? drafts = some values ↔ List.Forall₂ Holds drafts values := by
  induction drafts generalizing values with
  | nil =>
      rw [elementValues?, List.forall₂_nil_left_iff, Option.some.injEq, eq_comm]
  | cons draft rest ih =>
      rw [elementValues?, List.forall₂_cons_left_iff]
      constructor
      · intro read
        split at read
        · next value others held heldRest =>
          exact ⟨value, others, held, ih.1 heldRest, (Option.some.inj read).symm⟩
        · cases read
      · rintro ⟨value, others, held, heldRest, rfl⟩
        rw [show draft.value? = some value from held, ih.2 heldRest]

theorem memberValues?_eq_some_iff {drafts : List (String × Draft)}
    {members : List (String × Json)} :
    memberValues? drafts = some members ↔ List.Forall₂ HoldsMember drafts members := by
  induction drafts generalizing members with
  | nil =>
      rw [memberValues?, List.forall₂_nil_left_iff, Option.some.injEq, eq_comm]
  | cons draft rest ih =>
      rw [memberValues?, List.forall₂_cons_left_iff]
      constructor
      · intro read
        split at read
        · next value others held heldRest =>
          exact ⟨(draft.1, value), others, ⟨rfl, held⟩, ih.1 heldRest,
            (Option.some.inj read).symm⟩
        · cases read
      · rintro ⟨⟨key, value⟩, others, ⟨sameKey, held⟩, heldRest, rfl⟩
        rw [show draft.2.value? = some value from held, ih.2 heldRest]
        rw [show draft.1 = key from sameKey]

variable {draft : Draft}

theorem holds_str_iff {text : String} : draft.Holds (.str text) ↔ draft = .str text := by
  cases draft <;> simp [Holds, value?]

theorem holds_arr_iff {values : List Json} :
    draft.Holds (.arr values) ↔
      ∃ drafts ending, draft = .arr drafts ending ∧ Ending.isSound ending = true ∧
        List.Forall₂ Holds drafts values := by
  cases draft with
  | arr drafts ending => simp [Holds, value?, ← elementValues?_eq_some_iff, and_assoc]
  | _ => simp [Holds, value?]

theorem holds_obj_iff {members : List (String × Json)} :
    draft.Holds (.obj members) ↔
      ∃ drafts ending, draft = .obj drafts ending ∧ Ending.isSound ending = true ∧
        List.Forall₂ HoldsMember drafts members := by
  cases draft with
  | obj drafts ending => simp [Holds, value?, ← memberValues?_eq_some_iff, and_assoc]
  | _ => simp [Holds, value?]

end Draft

open Draft (Holds HoldsMember)

mutual

/-- A value at hand is held by its own draft. -/
theorem holds_draft : (value : Json) → value.draft.Holds value
  | arr elements =>
      Draft.holds_arr_iff.2 ⟨_, _, rfl, rfl, holds_draftElements elements⟩
  | obj members =>
      Draft.holds_obj_iff.2 ⟨_, _, rfl, rfl, holds_draftMembers members⟩
  | null => rfl
  | bool _ => rfl
  | int _ => rfl
  | float _ => rfl
  | str _ => rfl

theorem holds_draftElements : (elements : List Json) →
    List.Forall₂ Holds (draftElements elements) elements
  | [] => .nil
  | element :: rest => .cons (holds_draft element) (holds_draftElements rest)

theorem holds_draftMembers : (members : List (String × Json)) →
    List.Forall₂ HoldsMember (draftMembers members) members
  | [] => .nil
  | (_, value) :: rest => .cons ⟨rfl, holds_draft value⟩ (holds_draftMembers rest)

end

/-- A text from which a value is read, with nothing but blanks behind it. -/
def Spells (text : String) (value : Json) : Prop :=
  (Draft.ofText text).1.Holds value ∧ (Draft.ofText text).2 = false

instance (text : String) (value : Json) : Decidable (Spells text value) :=
  inferInstanceAs (Decidable (_ ∧ _))

/-! ## Reading what has been written -/

namespace Reader

variable {α : Type} {value : Json} {result : α}

/-- Every draft of a value reads as the result. -/
def Reads (reader : Reader α) (value : Json) (result : α) : Prop :=
  ∀ draft : Draft, draft.Holds value → reader draft = .ok result

theorem Reads.readWith {reader : Reader α} (reads : reader.Reads value result) :
    readWith reader value = .ok result :=
  reads value.draft (holds_draft value)

theorem Reads.readText {reader : Reader α} (reads : reader.Reads value result)
    {text : String} (spells : Spells text value) : readText reader text = .ok result := by
  obtain ⟨held, ended⟩ := spells
  simp [Json.readText, reads _ held, ended]

theorem ended_eq_ok_iff {ending : Ending} {written : α} :
    ended ending written = .ok result ↔ Draft.Ending.isSound ending = true ∧ written = result := by
  cases ending <;> simp [ended, Draft.Ending.isSound]

theorem reads_text (expected text : String) :
    (Reader.text expected).Reads (.str text) text := by
  intro draft held
  rw [Draft.holds_str_iff.1 held]
  rfl

theorem reads_name {kind : NameKind} (name : Name kind) :
    Reader.name.Reads (.str name.text) name := by
  intro draft held
  rw [Reader.name, reads_text _ _ draft held]
  simp

theorem reads_type {type : TypeRef} (wellFormed : type.WellFormed) :
    Reader.type.Reads (.str type.text) type := by
  intro draft held
  rw [Reader.type, reads_text _ _ draft held]
  simp [TypeRef.parse_text wellFormed]

theorem reads_optional {reader : Reader α} (reads : reader.Reads value result)
    (present : value ≠ .null) : (optional reader).Reads value (some result) := by
  intro draft held
  have read := reads draft held
  cases draft with
  | null => exact absurd (Option.some.inj held).symm present
  | _ => simp [optional, read]

theorem elements_eq_ok {reader : Reader α} {write : α → Json} {drafts : List Draft}
    {results : List α} (reads : ∀ result ∈ results, reader.Reads (write result) result)
    (held : List.Forall₂ Holds drafts (results.map write)) :
    elements reader drafts = .ok results := by
  induction results generalizing drafts with
  | nil =>
      cases held
      rfl
  | cons result rest ih =>
      cases held with
      | cons heldFirst heldRest =>
          obtain ⟨first, others⟩ := List.forall_mem_cons.1 reads
          rw [elements, first _ heldFirst, ih others heldRest]

/-- A list whose elements are read back is read back. -/
theorem reads_list {reader : Reader α} {write : α → Json} {results : List α}
    (reads : ∀ result ∈ results, reader.Reads (write result) result) :
    (list reader).Reads (.arr (results.map write)) results := by
  intro draft held
  obtain ⟨drafts, ending, rfl, sound, heldElements⟩ := Draft.holds_arr_iff.1 held
  rw [list, elements_eq_ok reads heldElements]
  exact ended_eq_ok_iff.2 ⟨sound, rfl⟩

theorem members_eq_ok {ε : Type} {write : α → String → Draft → Except ReadError α}
    {key : ε → String} {content : ε → Json} {put : α → ε → α} {entries : List ε}
    {drafts : List (String × Draft)} {written : α}
    (writes : ∀ entry ∈ entries, ∀ written draft, draft.Holds (content entry) →
      write written (key entry) draft = .ok (put written entry))
    (held : List.Forall₂ HoldsMember drafts
      (entries.map fun entry => (key entry, content entry))) :
    members write written drafts = .ok (entries.foldl put written) := by
  induction entries generalizing drafts written with
  | nil =>
      cases held
      rfl
  | cons entry rest ih =>
      cases held with
      | cons heldFirst heldRest =>
          obtain ⟨first, others⟩ := List.forall_mem_cons.1 writes
          rw [members, heldFirst.1, first _ _ heldFirst.2]
          exact ih others heldRest

/-- A map is read as its entries are written, one after the other. -/
theorem reads_map {ε : Type} {write : α → String → Draft → Except ReadError α}
    {key : ε → String} {content : ε → Json} {put : α → ε → α} {entries : List ε}
    {empty : α}
    (writes : ∀ entry ∈ entries, ∀ written draft, draft.Holds (content entry) →
      write written (key entry) draft = .ok (put written entry)) :
    (map empty write).Reads (.obj (entries.map fun entry => (key entry, content entry)))
      (entries.foldl put empty) := by
  intro draft held
  obtain ⟨drafts, ending, rfl, sound, heldMembers⟩ := Draft.holds_obj_iff.1 held
  rw [map, members_eq_ok writes heldMembers]
  exact ended_eq_ok_iff.2 ⟨sound, rfl⟩

end Reader

namespace Schema

variable {σ α β : Type} {schema : Schema σ α} {state final : σ} {seen : List String}

/-- Every draft of the members takes a record from one state to another. -/
def ReadsMembers (schema : Schema σ α) (state : σ) (seen : List String)
    (members : List (String × Json)) (final : σ) : Prop :=
  ∀ drafts, List.Forall₂ HoldsMember drafts members →
    schema.readMembers state seen drafts = .ok final

theorem ReadsMembers.nil : schema.ReadsMembers state seen [] state := by
  intro drafts held
  cases held
  rfl

theorem ReadsMembers.cons {key name : String} {value : Json} {reader : Reader β}
    {write : σ → β → σ} {result : β} {members : List (String × Json)}
    (found : schema.slots.find? (·.name = key) = some (.of name reader write))
    (fresh : key ∉ seen) (reads : reader.Reads value result)
    (others : schema.ReadsMembers (write state result) (key :: seen) members final) :
    schema.ReadsMembers state seen ((key, value) :: members) final := by
  intro drafts held
  cases held with
  | @cons draft _ _ _ heldFirst heldRest =>
      obtain ⟨sameKey, heldValue⟩ := heldFirst
      rw [readMembers, show draft.1 = key from sameKey, found]
      simp [fresh, Slot.of, reads _ heldValue, others _ heldRest]

/-- A record is read from an object whose members lead to a finished record. -/
theorem reads_obj (final : σ) {members : List (String × Json)} {record : α}
    (reads : schema.ReadsMembers schema.start [] members final)
    (finished : schema.finish final = .ok record) :
    schema.reader.Reads (.obj members) record := by
  intro draft held
  obtain ⟨drafts, ending, rfl, sound, heldMembers⟩ := Draft.holds_obj_iff.1 held
  rw [reader, reads _ heldMembers]
  simp [Reader.ended_eq_ok_iff.2 ⟨sound, rfl⟩, finished]

end Schema

/-! ## Properties of whatever is read -/

namespace Reader

variable {α : Type} {property : α → Prop}

/-- All that the reader reads has the property. -/
def Ensures (reader : Reader α) (property : α → Prop) : Prop :=
  ∀ draft value, reader draft = .ok value → property value

theorem mismatch_ne_ok {expected : String} {draft : Draft} {value : α} :
    mismatch expected draft ≠ .ok value := by
  unfold mismatch
  split <;> simp

theorem ensures_type : Reader.type.Ensures TypeRef.WellFormed := by
  intro draft type read
  unfold Reader.type at read
  split at read
  · cases read
  · split at read
    · next _ _ _ parse =>
      cases read
      exact TypeRef.wellFormed_of_parse parse
    · cases read

theorem forall_mem_of_elements {reader : Reader α} (ensures : reader.Ensures property)
    {drafts : List Draft} {values : List α} (read : elements reader drafts = .ok values) :
    ∀ value ∈ values, property value := by
  induction drafts generalizing values with
  | nil =>
      cases read
      simp
  | cons draft rest ih =>
      rw [elements] at read
      split at read
      · cases read
      · next value first =>
        split at read
        · cases read
        · next others readRest =>
          cases read
          exact List.forall_mem_cons.2 ⟨ensures draft value first, ih readRest⟩

theorem Ensures.list {reader : Reader α} (ensures : reader.Ensures property) :
    (list reader).Ensures fun values => ∀ value ∈ values, property value := by
  intro draft values read
  unfold Reader.list at read
  split at read
  · split at read
    · cases read
    · next elementsRead =>
      obtain ⟨_, rfl⟩ := ended_eq_ok_iff.1 read
      exact forall_mem_of_elements ensures elementsRead
  · exact absurd read mismatch_ne_ok

theorem property_of_members {write : α → String → Draft → Except ReadError α}
    (keeps : ∀ written key draft next, property written →
      write written key draft = .ok next → property next)
    {drafts : List (String × Draft)} {written final : α} (before : property written)
    (read : members write written drafts = .ok final) : property final := by
  induction drafts generalizing written with
  | nil =>
      cases read
      exact before
  | cons draft rest ih =>
      rw [members] at read
      split at read
      · cases read
      · next wrote => exact ih (keeps _ _ _ _ before wrote) read

/-- What each member keeps holds of a map that has been read. -/
theorem ensures_map {empty : α} {write : α → String → Draft → Except ReadError α}
    (start : property empty)
    (keeps : ∀ written key draft next, property written →
      write written key draft = .ok next → property next) :
    (map empty write).Ensures property := by
  intro draft written read
  unfold map at read
  split at read
  · split at read
    · cases read
    · next membersRead =>
      obtain ⟨_, rfl⟩ := ended_eq_ok_iff.1 read
      exact property_of_members keeps start membersRead
  · exact absurd read mismatch_ne_ok

end Reader

variable {σ α β : Type} {invariant : σ → Prop}

/-- Reading the field keeps what is known of the record. -/
def Slot.Keeps (slot : Slot σ) (invariant : σ → Prop) : Prop :=
  ∀ state draft next, invariant state → slot.read state draft = .ok next → invariant next

theorem Slot.keeps_of {name : String} {reader : Reader β} {write : σ → β → σ}
    {property : β → Prop} (ensures : reader.Ensures property)
    (keep : ∀ state value, invariant state → property value → invariant (write state value)) :
    (Slot.of name reader write).Keeps invariant := by
  intro state draft next before read
  simp only [Slot.of] at read
  split at read
  · next value readValue =>
    cases read
    exact keep state value before (ensures draft value readValue)
  · cases read

/-- A field of which nothing is asked is read without harm. -/
theorem Slot.keeps_of_forall {name : String} {reader : Reader β} {write : σ → β → σ}
    (keep : ∀ state value, invariant state → invariant (write state value)) :
    (Slot.of name reader write).Keeps invariant :=
  keeps_of (show reader.Ensures fun _ => True from fun _ _ _ => trivial)
    fun state value before _ => keep state value before

namespace Schema

variable {schema : Schema σ α} {state final : σ}

theorem invariant_of_readMembers (keeps : ∀ slot ∈ schema.slots, slot.Keeps invariant)
    {drafts : List (String × Draft)} {seen : List String} (before : invariant state)
    (read : schema.readMembers state seen drafts = .ok final) : invariant final := by
  induction drafts generalizing state seen with
  | nil =>
      cases read
      exact before
  | cons draft rest ih =>
      rw [readMembers] at read
      split at read
      · split at read
        · exact ih before read
        · cases read
      · next slot found =>
        split at read
        · cases read
        · split at read
          · cases read
          · next next stepped =>
            have kept := keeps slot (List.mem_of_find?_eq_some found)
            exact ih (kept _ _ _ before stepped) read

theorem invariant_of_readElements {slots : List (Slot σ)}
    (keeps : ∀ slot ∈ slots, slot.Keeps invariant) {drafts left : List Draft}
    (before : invariant state) (read : readElements state slots drafts = .ok (final, left)) :
    invariant final := by
  induction slots generalizing state drafts with
  | nil =>
      cases read
      exact before
  | cons slot slots ih =>
      obtain ⟨first, others⟩ := List.forall_mem_cons.1 keeps
      cases drafts with
      | nil =>
          cases read
          exact before
      | cons draft rest =>
          rw [readElements] at read
          split at read
          · cases read
          · next stepped => exact ih others (first _ _ _ before stepped) read

/-- What every field keeps holds of a record that has been read, be it written as
an object or as an array. -/
theorem ensures (invariant : σ → Prop) {property : α → Prop} (start : invariant schema.start)
    (keeps : ∀ slot ∈ schema.slots, slot.Keeps invariant)
    (finish : ∀ state record, invariant state → schema.finish state = .ok record →
      property record) :
    schema.reader.Ensures property := by
  intro draft record read
  unfold reader at read
  split at read
  · split at read
    · cases read
    · next membersRead =>
      split at read
      · cases read
      · next ended =>
        obtain ⟨_, rfl⟩ := Reader.ended_eq_ok_iff.1 ended
        split at read
        · next finished =>
          cases read
          exact finish _ _ (invariant_of_readMembers keeps start membersRead) finished
        · cases read
  · split at read
    · cases read
    · next elementsRead =>
      split at read
      · cases read
      · cases read
      · cases read
      · split at read
        · next finished =>
          cases read
          exact finish _ _ (invariant_of_readElements keeps start elementsRead) finished
        · cases read
  · exact absurd read Reader.mismatch_ne_ok

end Schema

end EventFields.Json

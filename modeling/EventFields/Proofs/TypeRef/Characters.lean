import EventFields.Proofs.TypeRef.RoundTrip

/-!
# Characters of type references

Apart from brackets, commas and the blanks behind commas, the printed form of a
type has the characters of its names and no others.  Conversely, the names of a
type that has been read have no characters but those of the text.
-/

namespace EventFields.TypeRef

/-- A character that printing does not add to those of the names. -/
def IsNameCharacter (c : Char) : Prop :=
  isDelimiter c = false ∧ c ≠ ' '

/-! ## Printed forms -/

theorem mem_followingChars_iff {c : Char} (own : IsNameCharacter c) {types : List TypeRef} :
    c ∈ followingChars types ↔ ∃ type ∈ types, c ∈ type.chars := by
  obtain ⟨undelimited, solid⟩ := own
  simp only [isDelimiter, Bool.or_eq_false_iff, decide_eq_false_iff_not] at undelimited
  induction types with
  | nil => simp [followingChars, undelimited]
  | cons type types ih => simp [followingChars, undelimited, solid, ih]

theorem mem_argumentChars_iff {c : Char} (own : IsNameCharacter c) {types : List TypeRef} :
    c ∈ argumentChars types ↔ ∃ type ∈ types, c ∈ type.chars := by
  cases types with
  | nil => simp [argumentChars]
  | cons type types =>
      have opening : c ≠ '<' := by
        rintro rfl
        exact absurd own.1 (by decide)
      simp [argumentChars, opening, mem_followingChars_iff own]

/-- A character that printing does not add is in the printed form exactly if it is in
one of the names. -/
theorem mem_chars_iff {c : Char} (own : IsNameCharacter c) {type : TypeRef} :
    c ∈ type.chars ↔ ∃ name ∈ type.names, c ∈ name.toList := by
  induction type with
  | mk name arguments ih =>
      rw [chars, names, namesOfAll_eq_flatMap, List.mem_append, mem_argumentChars_iff own]
      simp only [List.mem_cons, List.mem_flatMap, exists_eq_or_imp]
      refine or_congr_right ?_
      constructor
      · rintro ⟨argument, member, printed⟩
        obtain ⟨inner, named, held⟩ := (ih argument member).1 printed
        exact ⟨inner, ⟨argument, member, named⟩, held⟩
      · rintro ⟨inner, ⟨argument, member, named⟩, held⟩
        exact ⟨argument, member, (ih argument member).2 ⟨inner, named, held⟩⟩

/-! ## Texts that are read -/

mutual

theorem Spells.mem_of_mem_names {text : List Char} {type : TypeRef} (spells : Spells text type)
    {name : String} (named : name ∈ type.names) {c : Char} (held : c ∈ name.toList) :
    c ∈ text := by
  cases spells with
  | plain runNames =>
      obtain rfl : name = _ := by simpa [names, namesOfAll] using named
      exact Text.mem_of_mem_trim (by simpa using held)
  | generic runNames spellsInner =>
      rcases List.mem_cons.1 named with rfl | inner
      · have inRun := Text.mem_of_mem_trim (by simpa using held)
        exact List.mem_append_left _ inRun
      · have inInner := spellsInner.mem_of_mem_names inner held
        exact List.mem_append_right _ (List.mem_cons_of_mem _ inInner)

theorem SpellsArguments.mem_of_mem_names {text : List Char} {types : List TypeRef}
    (spells : SpellsArguments text types) {name : String} (named : name ∈ namesOfAll types)
    {c : Char} (held : c ∈ name.toList) : c ∈ text := by
  cases spells with
  | last spellsFirst _ =>
      have inFirst := spellsFirst.mem_of_mem_names (by simpa [namesOfAll] using named) held
      simp [inFirst]
  | more spellsFirst _ spellsOthers =>
      rw [namesOfAll, List.mem_append] at named
      rcases named with first | later
      · simp [spellsFirst.mem_of_mem_names first held]
      · simp [spellsOthers.mem_of_mem_names later held]

end

/-- The names of a type that has been read consist of characters of the text. -/
theorem mem_of_parse {input : String} {type : TypeRef} (parsed : parse input = .ok type)
    {name : String} (named : name ∈ type.names) {c : Char} (held : c ∈ name.toList) :
    c ∈ input.toList := by
  obtain ⟨text, blanks, split, _, spells⟩ := parse_eq_ok_iff.1 parsed
  rw [split]
  exact List.mem_append_left _ (spells.mem_of_mem_names named held)

end EventFields.TypeRef

import EventFields.Proofs.TypeRef.RoundTrip

/-!
# The canonical form of a text

Reading drops the blanks around names and in front of delimiters, and printing
puts one blank behind each comma.  Seen from outside, both together rewrite the
text without regard to its brackets: runs of blanks that touch a border, which is
a delimiter or an end of the text, are deleted, and then one blank is inserted
behind each comma.

What the rewriting does with a piece of a text depends on the text around it only
through the borders of the piece.  A run between borders is trimmed, and so the
rewriting can follow the grammar.
-/

namespace EventFields.TypeRef

open Text (isBlank trimStart trimEnd trim Blanks)

/-- The blanks at the front of a text, if any, reach a delimiter or its end. -/
def meetsBorder (text : List Char) : Bool :=
  (trimStart text).head?.all isDelimiter

/-- The second text without those of its blanks that belong to a run of blanks which
touches a border.  The first one is what stands before it, read backwards. -/
def dropBorderBlanks (before : List Char) : List Char → List Char
  | [] => []
  | c :: after =>
      if isBlank c && (meetsBorder before || meetsBorder after) then
        dropBorderBlanks (c :: before) after
      else
        c :: dropBorderBlanks (c :: before) after

/-- A text with one blank inserted behind each comma. -/
def spaceCommas (text : List Char) : List Char :=
  text.flatMap fun c => if c = ',' then [',', ' '] else [c]

/-- A text without blanks at borders, and with one blank behind each comma. -/
def canonical (input : String) : String :=
  String.ofList (spaceCommas (dropBorderBlanks [] input.toList))

/-! ## Borders -/

@[simp] theorem meetsBorder_nil : meetsBorder [] = true := rfl

theorem meetsBorder_cons (c : Char) (text : List Char) :
    meetsBorder (c :: text) = if isBlank c then meetsBorder text else isDelimiter c := by
  by_cases blank : isBlank c <;> simp [meetsBorder, trimStart, blank]

theorem meetsBorder_cons_of_isDelimiter {c : Char} (delimiter : isDelimiter c = true)
    (text : List Char) : meetsBorder (c :: text) = true := by
  rw [meetsBorder_cons, isBlank_eq_false_of_isDelimiter delimiter, delimiter]
  rfl

theorem meetsBorder_of_delimited {rest : List Char}
    (delimited : ∀ c ∈ rest.head?, isDelimiter c = true) : meetsBorder rest = true := by
  cases rest with
  | nil => rfl
  | cons c rest => exact meetsBorder_cons_of_isDelimiter (delimited c rfl) rest

/-- The blanks behind a place in a run reach the end of the run exactly if nothing but
blanks is left of it. -/
theorem meetsBorder_append {text rest : List Char}
    (undelimited : ∀ c ∈ text, isDelimiter c = false)
    (delimited : ∀ c ∈ rest.head?, isDelimiter c = true) :
    meetsBorder (text ++ rest) = true ↔ Blanks text := by
  induction text with
  | nil => simp [meetsBorder_of_delimited delimited]
  | cons c text ih =>
      obtain ⟨first, inner⟩ := List.forall_mem_cons.1 undelimited
      rw [List.cons_append, meetsBorder_cons, first]
      by_cases blank : isBlank c
      · simpa [blank, Blanks] using ih inner
      · simp [blank, Blanks]

/-- What stands before a text matters only through the border that it ends with. -/
theorem dropBorderBlanks_congr {before before' : List Char}
    (same : meetsBorder before = meetsBorder before') (text : List Char) :
    dropBorderBlanks before text = dropBorderBlanks before' text := by
  induction text generalizing before before' with
  | nil => rfl
  | cons c after ih =>
      have sameNext : meetsBorder (c :: before) = meetsBorder (c :: before') := by
        rw [meetsBorder_cons, meetsBorder_cons, same]
      simp only [dropBorderBlanks, same, ih sameNext]

theorem dropBorderBlanks_of_meetsBorder {before : List Char}
    (border : meetsBorder before = true) (text : List Char) :
    dropBorderBlanks before text = dropBorderBlanks [] text :=
  dropBorderBlanks_congr border text

theorem dropBorderBlanks_delimiter {c : Char} (delimiter : isDelimiter c = true)
    (before rest : List Char) :
    dropBorderBlanks before (c :: rest) = c :: dropBorderBlanks [] rest := by
  have border := meetsBorder_cons_of_isDelimiter delimiter before
  simp only [dropBorderBlanks, isBlank_eq_false_of_isDelimiter delimiter, Bool.false_and,
    Bool.false_eq_true, if_false, dropBorderBlanks_of_meetsBorder border]

/-- Behind a run, before a delimiter or the end, it does not matter what the run was. -/
theorem dropBorderBlanks_of_delimited {rest : List Char}
    (delimited : ∀ c ∈ rest.head?, isDelimiter c = true) (before : List Char) :
    dropBorderBlanks before rest = dropBorderBlanks [] rest := by
  cases rest with
  | nil => rfl
  | cons c rest =>
      rw [dropBorderBlanks_delimiter (delimited c rfl), dropBorderBlanks_delimiter (delimited c rfl)]

/-! ## Runs -/

section Runs

variable {rest : List Char} (delimited : ∀ c ∈ rest.head?, isDelimiter c = true)

include delimited

/-- Within a name only the blanks at the end of the run are deleted. -/
theorem dropBorderBlanks_append_of_inside {text : List Char}
    (undelimited : ∀ c ∈ text, isDelimiter c = false) {before : List Char}
    (inside : meetsBorder before = false) :
    dropBorderBlanks before (text ++ rest) = trimEnd text ++ dropBorderBlanks [] rest := by
  induction text generalizing before with
  | nil => exact dropBorderBlanks_of_delimited delimited before
  | cons c text ih =>
      obtain ⟨first, inner⟩ := List.forall_mem_cons.1 undelimited
      have stillInside : meetsBorder (c :: before) = false := by
        rw [meetsBorder_cons, inside, first, ite_self]
      have reaches := meetsBorder_append inner delimited
      rw [List.cons_append, dropBorderBlanks, inside, Bool.false_or, ih inner stillInside]
      by_cases dropped : isBlank c = true ∧ Blanks text
      · have nothing : Blanks (c :: text) := by simpa [Blanks] using dropped
        rw [if_pos (by simpa [reaches] using dropped), Text.trimEnd_eq_nil_iff.2 dropped.2,
          Text.trimEnd_eq_nil_iff.2 nothing]
      · have kept : isBlank c = false ∨ ¬ Blanks text := by
          rwa [not_and_or, Bool.not_eq_true] at dropped
        rw [if_neg (by simpa [reaches] using dropped), Text.trimEnd_cons kept, List.cons_append]

/-- Between borders a run is trimmed. -/
theorem dropBorderBlanks_append {text : List Char}
    (undelimited : ∀ c ∈ text, isDelimiter c = false) {before : List Char}
    (border : meetsBorder before = true) :
    dropBorderBlanks before (text ++ rest) = trim text ++ dropBorderBlanks [] rest := by
  induction text generalizing before with
  | nil => exact dropBorderBlanks_of_delimited delimited before
  | cons c text ih =>
      obtain ⟨first, inner⟩ := List.forall_mem_cons.1 undelimited
      rw [List.cons_append, dropBorderBlanks, border, Bool.true_or, Bool.and_true]
      cases blank : isBlank c with
      | true =>
          have stillBorder : meetsBorder (c :: before) = true := by
            rw [meetsBorder_cons, blank, border, if_pos rfl]
          have skipped : trim (c :: text) = trim text := by simp [trim, trimStart, blank]
          rw [if_pos rfl, ih inner stillBorder, skipped]
      | false =>
          have inside : meetsBorder (c :: before) = false := by
            rw [meetsBorder_cons, blank, first]
            rfl
          have begun : trim (c :: text) = c :: trimEnd text := by
            simp [trim, trimStart, blank, Text.trimEnd_cons (.inl blank)]
          rw [if_neg Bool.false_ne_true, dropBorderBlanks_append_of_inside delimited inner inside,
            begun, List.cons_append]

end Runs

/-! ## Commas -/

theorem spaceCommas_append (left right : List Char) :
    spaceCommas (left ++ right) = spaceCommas left ++ spaceCommas right :=
  List.flatMap_append

theorem spaceCommas_of_undelimited {text : List Char}
    (undelimited : ∀ c ∈ text, isDelimiter c = false) : spaceCommas text = text := by
  induction text with
  | nil => rfl
  | cons c text ih =>
      obtain ⟨first, inner⟩ := List.forall_mem_cons.1 undelimited
      have noComma : c ≠ ',' := by
        rintro rfl
        cases first
      rw [spaceCommas, List.flatMap_cons, if_neg noComma, ← spaceCommas, ih inner]
      rfl

/-! ## Texts of types -/

theorem NamesType.undelimited_trim {run : List Char} (named : NamesType run) :
    ∀ c ∈ trim run, isDelimiter c = false :=
  fun c member => named.undelimited c (Text.mem_of_mem_trim member)

mutual

/-- Between borders the text of a type is rewritten to its printed form. -/
theorem Spells.spaceCommas_dropBorderBlanks {text : List Char} {type : TypeRef}
    (spells : Spells text type) {blanks : List Char} (blank : Blanks blanks) {rest : List Char}
    (delimited : ∀ c ∈ rest.head?, isDelimiter c = true) {before : List Char}
    (border : meetsBorder before = true) :
    spaceCommas (dropBorderBlanks before (text ++ blanks ++ rest)) =
      type.chars ++ spaceCommas (dropBorderBlanks [] rest) := by
  cases spells with
  | plain named =>
      have extended := named.append_blanks blank
      rw [dropBorderBlanks_append delimited extended.undelimited border,
        Text.trim_append_blanks blank, spaceCommas_append,
        spaceCommas_of_undelimited named.undelimited_trim]
      simp [chars, argumentChars]
  | @generic name inner arguments named spellsInner =>
      obtain ⟨first, others, rfl, rewritten⟩ :=
        spellsInner.spaceCommas_dropBorderBlanks (blanks ++ rest) meetsBorder_nil
      have assoc : name ++ '<' :: inner ++ blanks ++ rest =
          name ++ '<' :: (inner ++ (blanks ++ rest)) := by simp
      have skipped : dropBorderBlanks [] (blanks ++ rest) = dropBorderBlanks [] rest := by
        rw [dropBorderBlanks_append delimited (undelimited_of_blanks blank) rfl,
          Text.trim_eq_nil_iff.2 blank, List.nil_append]
      rw [assoc, dropBorderBlanks_append (by simp [isDelimiter]) named.undelimited border,
        dropBorderBlanks_delimiter rfl, spaceCommas_append,
        spaceCommas_of_undelimited named.undelimited_trim]
      have opened (text : List Char) : spaceCommas ('<' :: text) = '<' :: spaceCommas text := rfl
      rw [opened, rewritten, skipped]
      simp [chars, argumentChars]

/-- The text of arguments is rewritten to their printed form, whatever follows. -/
theorem SpellsArguments.spaceCommas_dropBorderBlanks {text : List Char} {types : List TypeRef}
    (spells : SpellsArguments text types) (rest : List Char) {before : List Char}
    (border : meetsBorder before = true) :
    ∃ first others, types = first :: others ∧
      spaceCommas (dropBorderBlanks before (text ++ rest)) =
        first.chars ++ followingChars others ++ spaceCommas (dropBorderBlanks [] rest) := by
  cases spells with
  | @last text blanks type spellsFirst blank =>
      refine ⟨type, [], rfl, ?_⟩
      have assoc : text ++ blanks ++ ['>'] ++ rest = text ++ blanks ++ '>' :: rest := by simp
      rw [assoc, spellsFirst.spaceCommas_dropBorderBlanks blank (by simp [isDelimiter]) border,
        dropBorderBlanks_delimiter rfl]
      simp [followingChars, spaceCommas]
  | @more text blanks following type types spellsFirst blank spellsOthers =>
      obtain ⟨next, others, rfl, rewritten⟩ :=
        spellsOthers.spaceCommas_dropBorderBlanks rest meetsBorder_nil
      refine ⟨type, next :: others, rfl, ?_⟩
      have assoc : text ++ blanks ++ ',' :: following ++ rest =
          text ++ blanks ++ ',' :: (following ++ rest) := by simp
      rw [assoc, spellsFirst.spaceCommas_dropBorderBlanks blank (by simp [isDelimiter]) border,
        dropBorderBlanks_delimiter rfl]
      have spaced (text : List Char) : spaceCommas (',' :: text) = ',' :: ' ' :: spaceCommas text :=
        rfl
      rw [spaced, rewritten]
      simp [followingChars]

end

/-- A type prints as the canonical form of its text. -/
theorem text_eq_of_parse {input : String} {type : TypeRef} (parsed : parse input = .ok type) :
    type.text = canonical input := by
  obtain ⟨text, blanks, split, blank, spells⟩ := parse_eq_ok_iff.1 parsed
  have delimited : ∀ c ∈ ([] : List Char).head?, isDelimiter c = true := by simp
  have rewritten := spells.spaceCommas_dropBorderBlanks blank delimited meetsBorder_nil
  have nothing : spaceCommas (dropBorderBlanks [] []) = [] := rfl
  rw [List.append_nil, ← split, nothing, List.append_nil] at rewritten
  rw [canonical, rewritten, TypeRef.text]

/-- Printing a type that has been read gives the canonical form of the text; hence two
texts that can be read have the same type exactly if they have the same canonical form. -/
theorem text_eq_canonical :
    (∀ (input : String) (type : TypeRef), parse input = .ok type →
      type.text = canonical input) ∧
    ∀ (input input' : String) (type type' : TypeRef), parse input = .ok type →
      parse input' = .ok type' → (type = type' ↔ canonical input = canonical input') := by
  refine ⟨fun _ _ => text_eq_of_parse, ?_⟩
  intro input input' type type' parsed parsed'
  rw [← text_eq_of_parse parsed, ← text_eq_of_parse parsed']
  constructor
  · exact congrArg TypeRef.text
  · exact text_injective (wellFormed_of_parse parsed) (wellFormed_of_parse parsed')

/-- A text with blanks of several kinds at borders, and with blanks in a name. -/
theorem spellsPadded_wildcard :
    SpellsPadded "\tMap <K\u00a0,? super  V > ".toList
      (mk "Map" [plain "K", plain "? super  V"]) := by
  have key : Spells "K".toList (plain "K") := .plain (by decide)
  have bound : Spells "? super  V".toList (plain "? super  V") := .plain (by decide)
  have map : Spells "\tMap <K\u00a0,? super  V >".toList
      (mk "Map" [plain "K", plain "? super  V"]) :=
    @Spells.generic "\tMap ".toList _ _ (by decide)
      (@SpellsArguments.more _ "\u00a0".toList _ _ _ key (by decide)
        (@SpellsArguments.last _ " ".toList _ bound (by decide)))
  exact ⟨"\tMap <K\u00a0,? super  V >".toList, " ".toList, by decide +kernel, by decide, map⟩

/-- The blanks at borders are gone, and those in the name are kept. -/
theorem text_eq_canonical_wildcard :
    "Map<K, ? super  V>" = canonical "\tMap <K\u00a0,? super  V > " ∧
    canonical "\tMap <K\u00a0,? super  V > " = canonical "Map<K, ? super  V>" := by
  have parsed := parse_eq_ok_iff.2 spellsPadded_wildcard
  have read : parse "Map<K, ? super  V>" = _ := parse_text (wellFormed_of_parse parsed)
  obtain ⟨printed, same⟩ := text_eq_canonical
  exact ⟨printed _ _ parsed, (same _ _ _ _ parsed read).1 rfl⟩

end EventFields.TypeRef

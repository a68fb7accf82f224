import EventFields.Proofs.Text.Trimming
import EventFields.TypeRef.Parser

/-!
# The grammar of type references

`Spells text type` says, without a reader, that a text is one type from the
first character of its name up to its last character.  The reader and the
grammar agree: the reader finds a type exactly where the grammar has one, and
it finds the type that the grammar names.

Blanks between a name and the delimiter after it belong to the name for the
reader, but follow the argument in the grammar.  Completeness is therefore
stated for a text with blanks and a delimiter behind it, and leaves open which
of the two took the blanks.
-/

namespace EventFields.TypeRef

/-- A run of characters that names a type: it has no delimiter and a core. -/
structure NamesType (run : List Char) : Prop where
  undelimited : ∀ c ∈ run, isDelimiter c = false
  trim_ne_nil : Text.trim run ≠ []

instance (run : List Char) : Decidable (NamesType run) :=
  decidable_of_iff ((run.all fun c => !isDelimiter c) = true ∧ Text.trim run ≠ []) <| by
    constructor
    · rintro ⟨undelimited, named⟩
      exact ⟨by simpa using undelimited, named⟩
    · rintro ⟨undelimited, named⟩
      exact ⟨by simpa using undelimited, named⟩

mutual

/-- The text of one type. -/
inductive Spells : List Char → TypeRef → Prop
  | plain {run : List Char} : NamesType run →
      Spells run (mk (String.ofList (Text.trim run)) [])
  | generic {run inner : List Char} {arguments : List TypeRef} : NamesType run →
      SpellsArguments inner arguments →
      Spells (run ++ '<' :: inner) (mk (String.ofList (Text.trim run)) arguments)

/-- The text of one or more arguments and the bracket that closes them.  Blanks
may follow each argument. -/
inductive SpellsArguments : List Char → List TypeRef → Prop
  | last {text blanks : List Char} {type : TypeRef} : Spells text type →
      Text.Blanks blanks → SpellsArguments (text ++ blanks ++ ['>']) [type]
  | more {text blanks following : List Char} {type : TypeRef} {types : List TypeRef} :
      Spells text type → Text.Blanks blanks → SpellsArguments following types →
      SpellsArguments (text ++ blanks ++ ',' :: following) (type :: types)

end

/-- The text of one type with blanks behind it. -/
def SpellsPadded (input : List Char) (type : TypeRef) : Prop :=
  ∃ text blanks, input = text ++ blanks ∧ Text.Blanks blanks ∧ Spells text type

/-! ## The reader as a relation -/

/-- A reader has succeeded with a value and what it left of its input. -/
def Yields {α : Type} {input : List Char} (result : Except Fault (Parsed α input))
    (value : α) (rest : List Char) : Prop :=
  match result with
  | .ok parsed => parsed.value = value ∧ parsed.rest = rest
  | .error _ => False

@[simp] theorem yields_ok {α : Type} {input rest : List Char} {value : α}
    {parsed : Parsed α input} :
    Yields (.ok parsed) value rest ↔ parsed.value = value ∧ parsed.rest = rest :=
  Iff.rfl

@[simp] theorem yields_error {α : Type} {input rest : List Char} {value : α}
    {fault : Fault} : Yields (.error fault : Except Fault (Parsed α input)) value rest ↔ False :=
  Iff.rfl

/-- Reading takes `type` from the front of `input` and leaves `rest`. -/
def Reads (input : List Char) (type : TypeRef) (rest : List Char) : Prop :=
  Yields (readType input) type rest

/-- Reading takes arguments and their closing bracket from the front of `input`
and leaves `rest`. -/
def ReadsArguments (input : List Char) (types : List TypeRef) (rest : List Char) : Prop :=
  Yields (readArguments input) types rest

/-- The name that the front of a text gives to a type. -/
def frontName (input : List Char) : String :=
  String.ofList (Text.trim (nameRun input))

theorem Yields.length_lt {α : Type} {input rest : List Char} {value : α}
    {result : Except Fault (Parsed α input)} (yields : Yields result value rest) :
    rest.length < input.length := by
  cases result with
  | error fault => exact yields.elim
  | ok parsed =>
      obtain ⟨-, rfl⟩ := yields
      exact parsed.rest_lt

/-- What one call of the reader for types can do. -/
theorem reads_iff {input rest : List Char} {type : TypeRef} :
    Reads input type rest ↔ Text.trim (nameRun input) ≠ [] ∧
      ((∃ inner arguments, afterName input = '<' :: inner ∧
          ReadsArguments inner arguments rest ∧ mk (frontName input) arguments = type) ∨
        ((∀ inner, afterName input ≠ '<' :: inner) ∧ afterName input = rest ∧
          mk (frontName input) [] = type)) := by
  rw [Reads, readType]
  by_cases named : Text.trim (nameRun input) ≠ []
  · rw [dif_pos named]
    split
    · next inner after =>
      split
      · next fault failed => simp [after, ReadsArguments, failed]
      · next arguments found =>
        simp [after, ReadsArguments, found, named, frontName, and_comm]
    · next other =>
      have noBracket : ∀ inner, afterName input ≠ '<' :: inner := other
      simp [named, frontName, noBracket, and_comm]
  · simp [named]

/-- What one call of the reader for arguments can do. -/
theorem readsArguments_iff {input rest : List Char} {types : List TypeRef} :
    ReadsArguments input types rest ↔ ∃ type left, Reads input type left ∧
      ((Text.trimStart left = '>' :: rest ∧ [type] = types) ∨
        ∃ following others, Text.trimStart left = ',' :: following ∧
          ReadsArguments following others rest ∧ type :: others = types) := by
  simp only [ReadsArguments, Reads]
  rw [readArguments]
  split
  · next fault failed => simp [failed]
  · next first found =>
    simp only [found, yields_ok]
    split
    · next following after =>
      split
      · next fault failed => simp [after, failed]
      · next others foundOthers => simp [after, foundOthers, and_comm]
    · next rest' after => simp [after, and_comm]
    · next noComma noBracket =>
      have comma : ∀ following, Text.trimStart first.rest ≠ ',' :: following := noComma
      have bracket : ∀ rest, Text.trimStart first.rest ≠ '>' :: rest := noBracket
      simp [comma, bracket]

/-! ## Soundness -/

theorem isDelimiter_of_mem_nameRun {input : List Char} {c : Char}
    (member : c ∈ nameRun input) : isDelimiter c = false := by
  have kept := List.mem_takeWhile_imp member
  simpa using kept

theorem namesType_nameRun {input : List Char} (named : Text.trim (nameRun input) ≠ []) :
    NamesType (nameRun input) :=
  ⟨fun _ member => isDelimiter_of_mem_nameRun member, named⟩

mutual

/-- What is read as a type is the text of that type. -/
theorem Reads.exists_spells {input rest : List Char} {type : TypeRef}
    (reads : Reads input type rest) : ∃ text, input = text ++ rest ∧ Spells text type := by
  obtain ⟨named, read⟩ := reads_iff.1 reads
  have split := nameRun_append_afterName input
  have shorter := length_afterName_lt named
  rcases read with ⟨inner, arguments, after, readInner, rfl⟩ | ⟨-, rfl, rfl⟩
  · have inner_lt : inner.length < input.length := by
      rw [after, List.length_cons] at shorter
      omega
    obtain ⟨text, rfl, spells⟩ := readInner.exists_spells
    refine ⟨nameRun input ++ '<' :: text, ?_, .generic (namesType_nameRun named) spells⟩
    rw [List.append_assoc, List.cons_append, ← after, split]
  · exact ⟨nameRun input, split.symm, .plain (namesType_nameRun named)⟩
termination_by 2 * input.length

/-- What is read as arguments is the text of those arguments. -/
theorem ReadsArguments.exists_spells {input rest : List Char} {types : List TypeRef}
    (reads : ReadsArguments input types rest) :
    ∃ text, input = text ++ rest ∧ SpellsArguments text types := by
  obtain ⟨type, left, readFirst, read⟩ := readsArguments_iff.1 reads
  have left_lt : left.length < input.length := readFirst.length_lt
  have trimmed_le := Text.length_trimStart_le left
  obtain ⟨first, split, spells⟩ := readFirst.exists_spells
  obtain ⟨blanks, blank, leftSplit⟩ := Text.exists_trimStart left
  rcases read with ⟨closed, rfl⟩ | ⟨following, others, continued, readOthers, rfl⟩
  · refine ⟨first ++ blanks ++ ['>'], ?_, .last spells blank⟩
    rw [split, leftSplit, closed]
    simp
  · have following_lt : following.length < input.length := by
      rw [continued, List.length_cons] at trimmed_le
      omega
    obtain ⟨text, rfl, spellsOthers⟩ := readOthers.exists_spells
    refine ⟨first ++ blanks ++ ',' :: text, ?_, .more spells blank spellsOthers⟩
    rw [split, leftSplit, continued]
    simp
termination_by 2 * input.length + 1

end

/-! ## Completeness -/

/-- What may stand behind a type: nothing, a comma or a closing bracket. -/
def Stops (rest : List Char) : Prop :=
  ∀ c ∈ rest.head?, c = '>' ∨ c = ','

/-- A run without delimiters, up to a delimiter or the end, is what is read as a
name. -/
theorem nameRun_append {run : List Char} (undelimited : ∀ c ∈ run, isDelimiter c = false)
    (rest : List Char) (delimited : ∀ c ∈ rest.head?, isDelimiter c = true) :
    nameRun (run ++ rest) = run ∧ afterName (run ++ rest) = rest := by
  have inRun : ∀ c ∈ run, (!isDelimiter c) = true := by simpa using undelimited
  simp only [nameRun, afterName]
  rw [List.takeWhile_append_of_pos inRun, List.dropWhile_append_of_pos inRun]
  cases rest with
  | nil => simp
  | cons c rest =>
      have ends : isDelimiter c = true := delimited c (by simp)
      simp [ends]

theorem Stops.delimited {rest : List Char} (stops : Stops rest) :
    ∀ c ∈ rest.head?, isDelimiter c = true := by
  intro c member
  rcases stops c member with rfl | rfl <;> rfl

theorem Stops.ne_bracket {rest : List Char} (stops : Stops rest) (inner : List Char) :
    rest ≠ '<' :: inner := by
  rintro rfl
  simpa using stops '<' (by simp)

theorem isBlank_eq_false_of_isDelimiter {c : Char} (delimiter : isDelimiter c = true) :
    Text.isBlank c = false := by
  simp only [isDelimiter, Bool.or_eq_true, decide_eq_true_eq] at delimiter
  rcases delimiter with (rfl | rfl) | rfl <;> decide

theorem undelimited_of_blanks {blanks : List Char} (blank : Text.Blanks blanks) :
    ∀ c ∈ blanks, isDelimiter c = false := by
  intro c member
  by_contra delimiter
  have solid := isBlank_eq_false_of_isDelimiter (Bool.of_not_eq_false delimiter)
  rw [blank c member] at solid
  contradiction

theorem NamesType.append_blanks {run blanks : List Char} (named : NamesType run)
    (blank : Text.Blanks blanks) : NamesType (run ++ blanks) where
  undelimited := List.forall_mem_append.2 ⟨named.undelimited, undelimited_of_blanks blank⟩
  trim_ne_nil := by
    rw [Text.trim_append_blanks blank]
    exact named.trim_ne_nil

theorem NamesType.blanks_append {blanks run : List Char} (named : NamesType run)
    (blank : Text.Blanks blanks) : NamesType (blanks ++ run) where
  undelimited := List.forall_mem_append.2 ⟨undelimited_of_blanks blank, named.undelimited⟩
  trim_ne_nil := by
    rw [Text.trim_blanks_append blank]
    exact named.trim_ne_nil

/-- Blanks in front of a delimiter are skipped, whoever read them. -/
theorem trimStart_left {blanks rest left : List Char} {c : Char}
    (blank : Text.Blanks blanks) (delimiter : isDelimiter c = true)
    (leftSplit : left = c :: rest ∨ left = blanks ++ c :: rest) :
    Text.trimStart left = c :: rest := by
  have solid : Text.isBlank c = false := isBlank_eq_false_of_isDelimiter delimiter
  have kept : Text.trimStart (c :: rest) = c :: rest := by
    simp [Text.trimStart, solid]
  rcases leftSplit with rfl | rfl
  · exact kept
  · rw [Text.trimStart_blanks_append blank, kept]

mutual

/-- The text of a type is read as that type wherever it stands.  Blanks behind a
name are read with it, blanks behind a bracket are left. -/
theorem Spells.exists_reads {text : List Char} {type : TypeRef} (spells : Spells text type)
    {blanks : List Char} (blank : Text.Blanks blanks) (rest : List Char) (stops : Stops rest) :
    ∃ left, Reads (text ++ blanks ++ rest) type left ∧
      (left = rest ∨ left = blanks ++ rest) := by
  cases spells with
  | plain named =>
      -- No delimiter comes before the end of the blanks: they are part of the run.
      have extended := named.append_blanks blank
      obtain ⟨run, after⟩ := nameRun_append extended.undelimited rest stops.delimited
      refine ⟨rest, reads_iff.2 ⟨?_, .inr ⟨?_, after, ?_⟩⟩, .inl rfl⟩
      · rw [run]
        exact extended.trim_ne_nil
      · rw [after]
        exact stops.ne_bracket
      · rw [frontName, run, Text.trim_append_blanks blank]
  | @generic name inner arguments named spellsInner =>
      -- The bracket ends the run, and the closing one ends the type.
      have readInner := spellsInner.reads (blanks ++ rest)
      obtain ⟨run, after⟩ := nameRun_append named.undelimited
        ('<' :: (inner ++ (blanks ++ rest))) (by simp [isDelimiter])
      refine ⟨blanks ++ rest, ?_, .inr rfl⟩
      have assoc : name ++ '<' :: inner ++ blanks ++ rest =
          name ++ '<' :: (inner ++ (blanks ++ rest)) := by simp
      rw [assoc]
      refine reads_iff.2 ⟨?_, .inl ⟨_, arguments, after, readInner, ?_⟩⟩
      · rw [run]
        exact named.trim_ne_nil
      · rw [frontName, run]

/-- The text of arguments is read as those arguments, whatever follows. -/
theorem SpellsArguments.reads {text : List Char} {types : List TypeRef}
    (spells : SpellsArguments text types) (rest : List Char) :
    ReadsArguments (text ++ rest) types rest := by
  cases spells with
  | @last first blanks type spellsFirst blank =>
      obtain ⟨left, readFirst, leftSplit⟩ :=
        spellsFirst.exists_reads blank ('>' :: rest) (by simp [Stops])
      have bracket := trimStart_left blank rfl leftSplit
      have assoc : first ++ blanks ++ ['>'] ++ rest = first ++ blanks ++ '>' :: rest := by simp
      rw [assoc]
      exact readsArguments_iff.2 ⟨type, left, readFirst, .inl ⟨bracket, rfl⟩⟩
  | @more first blanks following type types spellsFirst blank spellsOthers =>
      obtain ⟨left, readFirst, leftSplit⟩ :=
        spellsFirst.exists_reads blank (',' :: (following ++ rest)) (by simp [Stops])
      have comma := trimStart_left blank rfl leftSplit
      have readOthers := spellsOthers.reads rest
      have assoc : first ++ blanks ++ ',' :: following ++ rest =
          first ++ blanks ++ ',' :: (following ++ rest) := by simp
      rw [assoc]
      exact readsArguments_iff.2
        ⟨type, left, readFirst, .inr ⟨_, types, comma, readOthers, rfl⟩⟩

end

/-! ## Whole texts -/

theorem parse_eq_ok_iff_reads {input : String} {type : TypeRef} :
    parse input = .ok type ↔ ∃ rest, Reads input.toList type rest ∧ Text.Blanks rest := by
  simp only [parse, Reads]
  split
  · next fault failed => simp [failed]
  · next read found =>
    by_cases blank : Text.trim read.rest = []
    · simp [found, blank, ← Text.trim_eq_nil_iff]
    · simp [found, blank, ← Text.trim_eq_nil_iff]

/-- A text parses as a type exactly if it is the text of that type, apart from
blanks behind it. -/
theorem parse_eq_ok_iff {input : String} {type : TypeRef} :
    parse input = .ok type ↔ SpellsPadded input.toList type := by
  rw [parse_eq_ok_iff_reads]
  constructor
  · rintro ⟨rest, reads, blank⟩
    obtain ⟨text, split, spells⟩ := reads.exists_spells
    exact ⟨text, rest, split, blank, spells⟩
  · rintro ⟨text, blanks, split, blank, spells⟩
    obtain ⟨left, reads, leftSplit⟩ := spells.exists_reads blank [] (by simp [Stops])
    simp only [List.append_nil] at reads leftSplit
    refine ⟨left, split ▸ reads, ?_⟩
    rcases leftSplit with rfl | rfl
    · exact Text.blanks_nil
    · exact blank

/-- Two types with the same text are the same, wherever the blanks behind it are
counted to begin. -/
theorem SpellsPadded.unique {text : List Char} {left right : TypeRef}
    (spellsLeft : SpellsPadded text left) (spellsRight : SpellsPadded text right) :
    left = right := by
  have readLeft : parse (String.ofList text) = .ok left := by
    rw [parse_eq_ok_iff, String.toList_ofList]
    exact spellsLeft
  have readRight : parse (String.ofList text) = .ok right := by
    rw [parse_eq_ok_iff, String.toList_ofList]
    exact spellsRight
  exact Except.ok.inj (readLeft.symm.trans readRight)

/-- A text with blanks of several kinds: in front of a name, in front of a comma
and behind brackets. -/
theorem spellsPadded_nested :
    SpellsPadded " Map<K\u00a0,List< V > > ".toList
      (mk "Map" [plain "K", mk "List" [plain "V"]]) := by
  have key : Spells "K".toList (plain "K") := .plain (by decide)
  have value : Spells " V".toList (plain "V") := .plain (by decide)
  have list : Spells "List< V >".toList (mk "List" [plain "V"]) :=
    @Spells.generic "List".toList _ _ (by decide)
      (@SpellsArguments.last _ " ".toList _ value (by decide))
  have map : Spells " Map<K\u00a0,List< V > >".toList
      (mk "Map" [plain "K", mk "List" [plain "V"]]) :=
    @Spells.generic " Map".toList _ _ (by decide)
      (@SpellsArguments.more _ "\u00a0".toList _ _ _ key (by decide)
        (@SpellsArguments.last _ " ".toList _ list (by decide)))
  exact ⟨_, " ".toList, rfl, by decide, map⟩

/-- Parsing accepts exactly the texts of the grammar and builds the tree that the
grammar gives them, of which there is at most one. -/
theorem parse_ok_iff_spellsPadded :
    (∀ (input : String) (type : TypeRef),
      parse input = .ok type ↔ SpellsPadded input.toList type) ∧
    ∀ (text : List Char) (left right : TypeRef),
      SpellsPadded text left → SpellsPadded text right → left = right :=
  ⟨fun _ _ => parse_eq_ok_iff, fun _ _ _ => SpellsPadded.unique⟩

theorem parse_ok_iff_spellsPadded_nested :
    parse " Map<K\u00a0,List< V > > " = .ok (mk "Map" [plain "K", mk "List" [plain "V"]]) ∧
    ∀ type, SpellsPadded " Map<K\u00a0,List< V > > ".toList type →
      type = mk "Map" [plain "K", mk "List" [plain "V"]] :=
  ⟨(parse_ok_iff_spellsPadded.1 _ _).2 spellsPadded_nested,
    fun _ spells => parse_ok_iff_spellsPadded.2 _ _ _ spells spellsPadded_nested⟩

end EventFields.TypeRef

import EventFields.Proofs.TypeRef.Offence
import EventFields.TypeRef.Position

/-!
# Reading by positions and by characters

A position on a boundary splits a text in two, and slicing there gives the second part.
A reader that starts on a boundary stays on boundaries: it moves by whole characters, or
behind a delimiter, which takes one byte.  So its slices are the lists that the reader of
characters goes through, and both come to the same.  What holds of the grammar then holds
of positions.
-/

namespace EventFields.TypeRef

/-! ## Slices -/

@[simp] theorem byteSize_append (left right : List Char) :
    byteSize (left ++ right) = byteSize left + byteSize right := by
  induction left with
  | nil => simp [byteSize]
  | cons c left ih =>
      simp only [List.cons_append, byteSize, ih]
      omega

theorem byteSize_pos {text : List Char} (nonempty : text ≠ []) : 0 < byteSize text := by
  cases text with
  | nil => contradiction
  | cons c rest => exact Nat.lt_of_lt_of_le c.utf8Size_pos (Nat.le_add_right _ _)

theorem byteSize_toList (text : String) : byteSize text.toList = text.utf8ByteSize := by
  obtain ⟨characters, rfl⟩ := text.exists_eq_ofList
  rw [String.toList_ofList]
  induction characters with
  | nil => rfl
  | cons c rest ih =>
      rw [byteSize, ih, String.ofList_cons, String.utf8ByteSize_append,
        String.utf8ByteSize_singleton]

theorem sliceFrom?_append (front rest : List Char) :
    sliceFrom? (front ++ rest) (byteSize front) = some rest := by
  induction front with
  | nil => rw [byteSize, List.nil_append, sliceFrom?]
  | cons c front ih =>
      have positive := c.utf8Size_pos
      obtain ⟨position, same⟩ : ∃ position, byteSize (c :: front) = position + 1 :=
        Nat.exists_eq_add_of_lt (byteSize_pos (List.cons_ne_nil c front)) |>.imp fun _ => by omega
      have left : position + 1 - c.utf8Size = byteSize front := by
        simp only [byteSize] at same
        omega
      have fits : c.utf8Size ≤ position + 1 := by
        simp only [byteSize] at same
        omega
      rw [same, List.cons_append, sliceFrom?, if_pos fits, left, ih]

theorem exists_of_sliceFrom? {text rest : List Char} {position : Nat}
    (slice : sliceFrom? text position = some rest) :
    ∃ front, text = front ++ rest ∧ byteSize front = position := by
  fun_induction sliceFrom? text position with
  | case1 text =>
      cases slice
      exact ⟨[], rfl, rfl⟩
  | case2 => cases slice
  | case3 c others position fits ih =>
      obtain ⟨front, rfl, size⟩ := ih slice
      refine ⟨c :: front, rfl, ?_⟩
      simp only [byteSize]
      omega
  | case4 => cases slice

/-- Slicing goes wrong exactly at positions that are not boundaries of characters. -/
theorem isSome_sliceFrom?_iff {text : String} {position : Nat} :
    (sliceFrom? text.toList position).isSome ↔ (String.Pos.Raw.mk position).IsValid text := by
  rw [String.Pos.Raw.isValid_iff_exists_append, Option.isSome_iff_exists]
  constructor
  · intro sliced
    obtain ⟨rest, slice⟩ := sliced
    obtain ⟨front, split, size⟩ := exists_of_sliceFrom? slice
    refine ⟨String.ofList front, String.ofList rest, ?_, ?_⟩
    · rw [← String.ofList_append, ← split, String.ofList_toList]
    · apply String.Pos.Raw.ext
      rw [String.byteIdx_rawEndPos, ← byteSize_toList, String.toList_ofList, size]
  · intro valid
    obtain ⟨front, rest, rfl, same⟩ := valid
    have size : position = byteSize front.toList := by
      rw [byteSize_toList]
      exact congrArg String.Pos.Raw.byteIdx same
    rw [size, String.toList_append]
    exact ⟨_, sliceFrom?_append _ _⟩

theorem slice?_append (front run rest : List Char) :
    slice? (front ++ (run ++ rest)) (byteSize front) (byteSize (front ++ run)) = some run := by
  have behindRun : sliceFrom? (front ++ (run ++ rest)) (byteSize (front ++ run)) = some rest := by
    rw [← List.append_assoc]
    exact sliceFrom?_append (front ++ run) rest
  rw [slice?, sliceFrom?_append, behindRun]
  simp

/-- One step of moving on. -/
theorem map_val_advance? {condition : Char → Bool} {text rest : List Char} {position : Nat}
    (slice : sliceFrom? text position = some rest) :
    (advance? condition text position).map Subtype.val =
      match rest with
      | [] => some position
      | c :: _ =>
          if condition c then
            (advance? condition text (position + c.utf8Size)).map Subtype.val
          else some position := by
  rw [advance?]
  split
  · next failed =>
    rw [failed] at slice
    cases slice
  · next atEnd =>
    rw [atEnd] at slice
    cases slice
    rfl
  · next c others found =>
    rw [found] at slice
    cases slice
    by_cases holds : condition c
    · simp only [holds, if_true]
      cases advance? condition text (position + c.utf8Size) <;> rfl
    · simp only [holds]
      rfl

/-- A reader moves on from a boundary to the end of the characters that satisfy the
condition. -/
theorem exists_advance?_eq (condition : Char → Bool) (front rest : List Char) :
    ∃ le, advance? condition (front ++ rest) (byteSize front) =
      some ⟨byteSize (front ++ rest.takeWhile condition), le⟩ := by
  have moved : (advance? condition (front ++ rest) (byteSize front)).map Subtype.val =
      some (byteSize (front ++ rest.takeWhile condition)) := by
    induction rest generalizing front with
    | nil =>
        rw [map_val_advance? (sliceFrom?_append front [])]
        simp
    | cons c rest ih =>
        rw [map_val_advance? (sliceFrom?_append front (c :: rest))]
        by_cases holds : condition c
        · have later := ih (front ++ [c])
          have size : byteSize (front ++ [c]) = byteSize front + c.utf8Size := by simp [byteSize]
          rw [List.append_assoc, List.singleton_append, size] at later
          simp only [holds, if_true, later, List.takeWhile_cons_of_pos, List.append_assoc,
            List.singleton_append]
        · simp [holds]
  obtain ⟨stop, found, same⟩ := Option.map_eq_some_iff.1 moved
  exact ⟨same ▸ stop.property, found.trans (congrArg some (Subtype.ext same))⟩

/-! ## Readers -/

namespace Ending

variable {α : Type} {start : Nat}

/-- Reading has come to a value and a position. -/
def Reaches (ending : Ending α start) (value : α) (stop : Nat) : Prop :=
  match ending with
  | reached value' stop' _ => value' = value ∧ stop' = stop
  | panicked | failed _ => False

/-- Reading by positions ends as reading by characters does: with the same fault, or with
the same value, at the position in front of the characters that are left. -/
def Agrees {input : List Char} (size : Nat) (ending : Ending α start)
    (result : Except Fault (Parsed α input)) : Prop :=
  match ending, result with
  | failed fault, .error fault' => fault = fault'
  | reached value stop _, .ok parsed =>
      value = parsed.value ∧ stop + byteSize parsed.rest = size
  | _, _ => False

theorem Agrees.cases {input : List Char} {size : Nat} {ending : Ending α start}
    {result : Except Fault (Parsed α input)} (agrees : ending.Agrees size result) :
    (∃ fault, ending = failed fault ∧ result = .error fault) ∨
      ∃ value stop le rest rest_lt, ending = reached value stop le ∧
        result = .ok ⟨value, rest, rest_lt⟩ ∧ stop + byteSize rest = size := by
  cases ending with
  | panicked => exact agrees.elim
  | failed fault =>
      cases result with
      | error fault' =>
          obtain rfl : fault = fault' := agrees
          exact .inl ⟨fault, rfl, rfl⟩
      | ok parsed => exact agrees.elim
  | reached value stop le =>
      cases result with
      | error fault' => exact agrees.elim
      | ok parsed =>
          obtain ⟨rfl, same⟩ := agrees
          exact .inr ⟨_, stop, le, parsed.rest, parsed.rest_lt, rfl, rfl, same⟩

end Ending

theorem byteSize_concat_delimiter {c : Char} (delimiter : isDelimiter c = true)
    (text : List Char) : byteSize (text ++ [c]) = byteSize text + 1 := by
  simp only [isDelimiter, Bool.or_eq_true, decide_eq_true_eq] at delimiter
  rcases delimiter with (rfl | rfl) | rfl <;> simp [byteSize] <;> rfl

/-- Reading a type goes on with the arguments if there is an opening bracket behind the name. -/
theorem readType_of_bracket {input inner : List Char} (named : Text.trim (nameRun input) ≠ [])
    (after : afterName input = '<' :: inner) :
    ∃ lt : inner.length < input.length, readType input =
      match readArguments inner with
      | .error fault => .error fault
      | .ok arguments =>
          .ok ⟨mk (frontName input) arguments.value, arguments.rest,
            Nat.lt_trans arguments.rest_lt lt⟩ := by
  have lt : inner.length < input.length := by
    have shorter := length_afterName_lt named
    rw [after, List.length_cons] at shorter
    omega
  refine ⟨lt, ?_⟩
  rw [readType, dif_pos named]
  split
  · next inner' after' =>
    obtain rfl : inner = inner' := by
      rw [after] at after'
      exact (List.cons.inj after').2
    rfl
  · next noBracket => exact absurd after (noBracket inner)

/-- Reading a type ends behind the name if there is no opening bracket. -/
theorem readType_of_no_bracket {input : List Char} (named : Text.trim (nameRun input) ≠ [])
    (noBracket : ∀ inner, afterName input ≠ '<' :: inner) :
    readType input =
      .ok ⟨mk (frontName input) [], afterName input, length_afterName_lt named⟩ := by
  rw [readType, dif_pos named]
  split
  · next inner after => exact absurd after (noBracket inner)
  · rfl

/-- Reading arguments goes on with the others if there is a comma behind the first one. -/
theorem readArguments_of_comma {input following : List Char} {first : Parsed TypeRef input}
    (found : readType input = .ok first)
    (after : Text.trimStart first.rest = ',' :: following) :
    ∃ lt : following.length < input.length, readArguments input =
      match readArguments following with
      | .error fault => .error fault
      | .ok others =>
          .ok ⟨first.value :: others.value, others.rest, Nat.lt_trans others.rest_lt lt⟩ := by
  have lt : following.length < input.length := by
    have trimmed_le := Text.length_trimStart_le first.rest
    have first_lt := first.rest_lt
    rw [after, List.length_cons] at trimmed_le
    omega
  refine ⟨lt, ?_⟩
  rw [readArguments, found]
  simp only
  split
  · next following' after' =>
    obtain rfl : following = following' := by
      rw [after] at after'
      exact (List.cons.inj after').2
    rfl
  · next rest after' =>
    rw [after] at after'
    cases after'
  · next noComma noBracket => exact absurd after (noComma following)

/-- Reading arguments ends behind a closing bracket. -/
theorem readArguments_of_bracket {input rest : List Char} {first : Parsed TypeRef input}
    (found : readType input = .ok first) (after : Text.trimStart first.rest = '>' :: rest) :
    ∃ lt : rest.length < input.length, readArguments input = .ok ⟨[first.value], rest, lt⟩ := by
  have lt : rest.length < input.length := by
    have trimmed_le := Text.length_trimStart_le first.rest
    have first_lt := first.rest_lt
    rw [after, List.length_cons] at trimmed_le
    omega
  refine ⟨lt, ?_⟩
  rw [readArguments, found]
  simp only
  split
  · next following after' =>
    rw [after] at after'
    cases after'
  · next rest' after' =>
    obtain rfl : rest = rest' := by
      rw [after] at after'
      exact (List.cons.inj after').2
    rfl
  · next noComma noBracket => exact absurd after (noBracket rest)

/-- Reading arguments fails if there is neither a comma nor a closing bracket. -/
theorem readArguments_of_neither {input : List Char} {first : Parsed TypeRef input}
    (found : readType input = .ok first)
    (noComma : ∀ following, Text.trimStart first.rest ≠ ',' :: following)
    (noBracket : ∀ rest, Text.trimStart first.rest ≠ '>' :: rest) :
    readArguments input = .error .unbalanced := by
  rw [readArguments, found]
  simp only

mutual

/-- From a boundary on, a type is read by positions as it is by characters. -/
theorem agrees_readTypeAt (front rest : List Char) :
    (readTypeAt (front ++ rest) (byteSize front)).Agrees (byteSize (front ++ rest))
      (readType rest) := by
  obtain ⟨le, moved⟩ : ∃ le,
      advance? (fun c => !isDelimiter c) (front ++ rest) (byteSize front) =
      some ⟨byteSize (front ++ nameRun rest), le⟩ := exists_advance?_eq _ front rest
  have run := slice?_append front (nameRun rest) (afterName rest)
  have slice := sliceFrom?_append (front ++ nameRun rest) (afterName rest)
  rw [List.append_assoc] at slice
  have whole := nameRun_append_afterName rest
  rw [whole] at run slice
  rw [readTypeAt]
  simp only [moved, run]
  by_cases named : Text.trim (nameRun rest) ≠ []
  · rw [if_pos named]
    split
    · next failed =>
      rw [failed] at slice
      cases slice
    · next inner opened =>
      rw [opened] at slice
      have after : afterName rest = '<' :: inner := (Option.some.inj slice).symm
      obtain ⟨inner_lt, readRest⟩ := readType_of_bracket named after
      have agrees := agrees_readArgumentsAt (front ++ nameRun rest ++ ['<']) inner
      rw [byteSize_concat_delimiter rfl, List.append_assoc, List.append_assoc,
        List.singleton_append, ← after, whole] at agrees
      rw [readRest]
      rcases agrees.cases with
        ⟨fault, ended, read⟩ | ⟨arguments, stop, le', left, lt, ended, read, size⟩
      · simp only [ended, read]
        rfl
      · simp only [ended, read]
        exact ⟨rfl, size⟩
    · next others noBracket found =>
      rw [found] at slice
      obtain rfl : others = afterName rest := Option.some.inj slice
      rw [readType_of_no_bracket named noBracket]
      refine ⟨rfl, ?_⟩
      rw [← byteSize_append, List.append_assoc, whole]
  · rw [if_neg named, readType, dif_neg named]
    rfl
termination_by 2 * rest.length

/-- From a boundary on, arguments are read by positions as they are by characters. -/
theorem agrees_readArgumentsAt (front rest : List Char) :
    (readArgumentsAt (front ++ rest) (byteSize front)).Agrees (byteSize (front ++ rest))
      (readArguments rest) := by
  rw [readArgumentsAt]
  rcases (agrees_readTypeAt front rest).cases with
    ⟨fault, ended, failed⟩ | ⟨first, stop, le, left, left_lt, ended, found, size⟩
  · rw [readArguments, failed]
    simp only [ended]
    rfl
  · -- What has been read lies between two boundaries.
    have reads : Reads rest first left := by
      rw [Reads, found]
      exact ⟨rfl, rfl⟩
    obtain ⟨taken, rfl, -⟩ := reads.exists_spells
    obtain rfl : stop = byteSize (front ++ taken) := by
      rw [← List.append_assoc, byteSize_append] at size
      omega
    obtain ⟨blanks, whole, le', moved⟩ : ∃ blanks, blanks ++ Text.trimStart left = left ∧
        ∃ le', advance? Text.isBlank (front ++ taken ++ left) (byteSize (front ++ taken)) =
          some ⟨byteSize (front ++ taken ++ blanks), le'⟩ :=
      ⟨_, List.takeWhile_append_dropWhile, exists_advance?_eq _ _ _⟩
    have slice := sliceFrom?_append (front ++ taken ++ blanks) (Text.trimStart left)
    rw [List.append_assoc _ blanks, whole] at slice
    rw [List.append_assoc front taken left] at moved slice
    simp only [ended, moved]
    split
    · next failed =>
      rw [failed] at slice
      cases slice
    · next following atComma =>
      rw [atComma] at slice
      have after : Text.trimStart left = ',' :: following := (Option.some.inj slice).symm
      obtain ⟨following_lt, readRest⟩ := readArguments_of_comma found after
      have agrees := agrees_readArgumentsAt (front ++ taken ++ blanks ++ [',']) following
      rw [byteSize_concat_delimiter rfl, List.append_assoc _ [','], List.singleton_append, ← after,
        List.append_assoc _ blanks, whole, List.append_assoc front taken left] at agrees
      rw [readRest]
      rcases agrees.cases with
        ⟨fault, ended, read⟩ | ⟨others, stop, le'', _, lt, ended, read, size⟩
      · simp only [ended, read]
        rfl
      · simp only [ended, read]
        exact ⟨rfl, size⟩
    · next others atBracket =>
      rw [atBracket] at slice
      have after : Text.trimStart left = '>' :: others := (Option.some.inj slice).symm
      obtain ⟨others_lt, read⟩ := readArguments_of_bracket found after
      rw [read]
      refine ⟨rfl, ?_⟩
      calc byteSize (front ++ taken ++ blanks) + 1 + byteSize others
          = byteSize (front ++ taken ++ (blanks ++ '>' :: others)) := by
            have bracket : isDelimiter '>' = true := rfl
            rw [← byteSize_concat_delimiter bracket, ← byteSize_append]
            simp
        _ = byteSize (front ++ (taken ++ left)) := by
            rw [← after, whole, List.append_assoc]
    · next others noComma noBracket behind =>
      rw [behind] at slice
      obtain rfl : others = Text.trimStart left := Option.some.inj slice
      rw [readArguments_of_neither found noComma noBracket]
      rfl
termination_by 2 * rest.length + 1

end

/-! ## Positions in the grammar -/

/-- What a type is read from, and where reading it stops. -/
theorem reaches_readTypeAt_iff {front rest : List Char} {type : TypeRef} {stop : Nat} :
    (readTypeAt (front ++ rest) (byteSize front)).Reaches type stop ↔
      ∃ left, Reads rest type left ∧ stop + byteSize left = byteSize (front ++ rest) := by
  rcases (agrees_readTypeAt front rest).cases with
    ⟨fault, ended, read⟩ | ⟨value, end', le, left, left_lt, ended, read, size⟩
  · simp [Ending.Reaches, Reads, ended, read]
  · simp only [Ending.Reaches, Reads, ended, read, yields_ok]
    constructor
    · rintro ⟨rfl, rfl⟩
      exact ⟨left, ⟨rfl, rfl⟩, size⟩
    · rintro ⟨left, ⟨rfl, rfl⟩, size'⟩
      exact ⟨rfl, by omega⟩

/-- No slice goes wrong, and the readers come to the same. -/
theorem parseByPosition?_eq (input : String) : parseByPosition? input = some (parse input) := by
  have agrees : (readTypeAt input.toList 0).Agrees (byteSize input.toList)
      (readType input.toList) := agrees_readTypeAt [] input.toList
  rw [parseByPosition?, parse]
  rcases agrees.cases with
    ⟨fault, ended, read⟩ | ⟨type, stop, le, left, left_lt, ended, read, size⟩
  · simp only [ended, read]
  · have reads : Reads input.toList type left := by
      rw [Reads, read]
      exact ⟨rfl, rfl⟩
    obtain ⟨taken, split, -⟩ := reads.exists_spells
    have slice : sliceFrom? input.toList stop = some left := by
      rw [split, byteSize_append] at size
      rw [split, Nat.add_right_cancel size]
      exact sliceFrom?_append taken left
    simp only [ended, read, slice]
    split <;> rfl

/-- Arguments end with their closing bracket. -/
theorem SpellsArguments.getLast? {text : List Char} {types : List TypeRef}
    (spells : SpellsArguments text types) : text.getLast? = some '>' := by
  cases spells with
  | last => exact List.getLast?_concat
  | more _ _ spellsOthers =>
      have closed := spellsOthers.getLast?
      rw [List.getLast?_append, List.getLast?_cons, closed]
      rfl

/-- Behind a type that has been read the text stops, unless the type ends with a
bracket. -/
theorem Reads.exists_spells_stops {input rest : List Char} {type : TypeRef}
    (reads : Reads input type rest) :
    ∃ taken, input = taken ++ rest ∧ Spells taken type ∧
      (Stops rest ∨ taken.getLast? = some '>') := by
  obtain ⟨taken, split, spells⟩ := reads.exists_spells
  refine ⟨taken, split, spells, ?_⟩
  cases spells with
  | plain named =>
      left
      rcases reads_iff.1 reads with
        ⟨-, ⟨inner, arguments, -, readInner, same⟩ | ⟨noBracket, rfl, -⟩⟩
      · -- A reader of arguments finds at least one.
        obtain rfl : arguments = [] := (mk.inj same).2
        rcases readsArguments_iff.1 readInner with ⟨_, _, -, ⟨-, same⟩ | ⟨_, _, -, -, same⟩⟩ <;>
          cases same
      · exact stops_afterName noBracket
  | generic named spellsInner =>
      right
      rw [List.getLast?_append, List.getLast?_cons, spellsInner.getLast?]
      rfl

/-- The text of a type is read as that type, behind any text and in front of any that
stops it. -/
theorem Spells.reaches {taken : List Char} {type : TypeRef} (spells : Spells taken type)
    (front : List Char) {rest : List Char} (stops : Stops rest) :
    (readTypeAt (front ++ (taken ++ rest)) (byteSize front)).Reaches type
      (byteSize (front ++ taken)) := by
  obtain ⟨left, reads, leftSplit⟩ := spells.exists_reads Text.blanks_nil rest stops
  have same : left = rest := by simpa using leftSplit
  rw [List.append_nil, same] at reads
  apply reaches_readTypeAt_iff.2
  refine ⟨rest, reads, ?_⟩
  rw [← byteSize_append, List.append_assoc]

theorem Spells.ne_nil {taken : List Char} {type : TypeRef} (spells : Spells taken type) :
    taken ≠ [] := by
  cases spells with
  | plain named =>
      rintro rfl
      exact named.trim_ne_nil rfl
  | generic => simp

/-- A position on a boundary splits a text in two. -/
theorem exists_split_of_isValid {text : String} {position : Nat}
    (boundary : (String.Pos.Raw.mk position).IsValid text) :
    ∃ front rest : String, text = front ++ rest ∧ byteSize front.toList = position := by
  obtain ⟨front, rest, split, same⟩ := String.Pos.Raw.isValid_iff_exists_append.1 boundary
  refine ⟨front, rest, split, ?_⟩
  rw [byteSize_toList]
  exact (congrArg String.Pos.Raw.byteIdx same).symm

/-- What reading a type has taken parses as that type on its own, ends where a type can
end, and alone decides the result. -/
theorem exists_taken_of_reaches {front rest : List Char} {type : TypeRef} {stop : Nat}
    (reaches : (readTypeAt (front ++ rest) (byteSize front)).Reaches type stop) :
    ∃ taken left : List Char, rest = taken ++ left ∧ taken ≠ [] ∧
      stop = byteSize (front ++ taken) ∧
      parse (String.ofList taken) = .ok type ∧
      (Stops left ∨ taken.getLast? = some '>') ∧
      ∀ left', Stops left' →
        (readTypeAt (front ++ (taken ++ left')) (byteSize front)).Reaches type stop := by
  obtain ⟨left, reads, size⟩ := reaches_readTypeAt_iff.1 reaches
  obtain ⟨taken, rfl, spells, ends⟩ := reads.exists_spells_stops
  have behind : stop = byteSize (front ++ taken) := by
    rw [← List.append_assoc, byteSize_append] at size
    exact Nat.add_right_cancel size
  refine ⟨taken, left, rfl, spells.ne_nil, behind, ?_, ends, ?_⟩
  · rw [parse_eq_ok_iff, String.toList_ofList]
    exact ⟨taken, [], (List.append_nil taken).symm, Text.blanks_nil, spells⟩
  · intro left' stops
    rw [behind]
    exact spells.reaches front stops

/-- Reading by positions slices the text at boundaries only.

* A slice goes wrong exactly off the boundaries.
* Reading a whole text, and reading one type from any boundary on, come to what reading by
  characters comes to; no slice goes wrong.
* Where one type has been read, reading has made progress.  The text gone through is that
  of the type on its own, and may stand in front of any text that stops it. -/
theorem readTypeAt_local :
    (∀ (text : String) (position : Nat),
      (sliceFrom? text.toList position).isSome ↔ (String.Pos.Raw.mk position).IsValid text) ∧
    (∀ input, parseByPosition? input = some (parse input)) ∧
    (∀ front rest : String, (readTypeAt (front ++ rest).toList front.utf8ByteSize).Agrees
      (front ++ rest).utf8ByteSize (readType rest.toList)) ∧
    ∀ (text : String) (start : Nat), (String.Pos.Raw.mk start).IsValid text →
      readTypeAt text.toList start ≠ .panicked ∧
      ∀ type stop, (readTypeAt text.toList start).Reaches type stop →
        start < stop ∧ stop ≤ text.utf8ByteSize ∧
        ∃ front taken rest : String, text = front ++ taken ++ rest ∧
          front.utf8ByteSize = start ∧ (front ++ taken).utf8ByteSize = stop ∧
          parse taken = .ok type ∧
          (Stops rest.toList ∨ taken.toList.getLast? = some '>') ∧
          ∀ rest' : String, Stops rest'.toList →
            (readTypeAt (front ++ taken ++ rest').toList start).Reaches type stop := by
  refine ⟨fun _ _ => isSome_sliceFrom?_iff, parseByPosition?_eq, ?agrees, ?step⟩
  case agrees =>
    intro front rest
    rw [← byteSize_toList, ← byteSize_toList, String.toList_append]
    exact agrees_readTypeAt front.toList rest.toList
  case step =>
    intro text start boundary
    obtain ⟨front, rest, rfl, rfl⟩ := exists_split_of_isValid boundary
    rw [String.toList_append]
    constructor
    · intro panicked
      have agrees := agrees_readTypeAt front.toList rest.toList
      rw [panicked] at agrees
      exact agrees.elim
    · intro type stop reaches
      obtain ⟨taken, left, split, nonempty, rfl, parsed, ends, swap⟩ :=
        exists_taken_of_reaches reaches
      have progress : byteSize front.toList < byteSize (front.toList ++ taken) := by
        rw [byteSize_append]
        exact Nat.lt_add_of_pos_right (byteSize_pos nonempty)
      have within : byteSize (front.toList ++ taken) ≤ (front ++ rest).utf8ByteSize := by
        rw [← byteSize_toList, String.toList_append, split, ← List.append_assoc,
          byteSize_append (front.toList ++ taken)]
        exact Nat.le_add_right _ _
      refine ⟨progress, within, front, String.ofList taken, String.ofList left, ?whole,
        (byteSize_toList front).symm, ?behind, parsed, ?ends, ?swap⟩
      case whole =>
        rw [String.append_assoc, ← String.ofList_append, ← split, String.ofList_toList]
      case behind => rw [← byteSize_toList, String.toList_append, String.toList_ofList]
      case ends =>
        rw [String.toList_ofList, String.toList_ofList]
        exact ends
      case swap =>
        intro rest' stops
        rw [String.toList_append, String.toList_append, String.toList_ofList, List.append_assoc]
        exact swap rest'.toList stops

/-- Behind the first five bytes, the inner type takes ten bytes for five characters. -/
theorem readTypeAt_local_nested :
    ∃ front taken rest : String, "List<é<日本>,K>" = front ++ taken ++ rest ∧
      front.utf8ByteSize = 5 ∧ (front ++ taken).utf8ByteSize = 15 ∧
      parse taken = .ok (mk "é" [plain "日本"]) ∧
      (readTypeAt (front ++ taken ++ ">>").toList 5).Reaches (mk "é" [plain "日本"]) 15 := by
  have boundary : (String.Pos.Raw.mk 5).IsValid "List<é<日本>,K>" :=
    (readTypeAt_local.1 _ _).1 (by decide)
  have inner : Spells "é<日本>".toList (mk "é" [plain "日本"]) :=
    @Spells.generic "é".toList _ _ (by decide)
      (@SpellsArguments.last "日本".toList [] _ (.plain (by decide)) (by decide))
  have stops : Stops ",K>".toList := by simp [Stops]
  have reaches : (readTypeAt "List<é<日本>,K>".toList 5).Reaches (mk "é" [plain "日本"]) 15 :=
    inner.reaches "List<".toList stops
  obtain ⟨-, -, front, taken, rest, split, before, behind, parsed, -, swap⟩ :=
    (readTypeAt_local.2.2.2 _ _ boundary).2 _ _ reaches
  exact ⟨front, taken, rest, split, before, behind, parsed, swap ">>" (by simp [Stops])⟩

end EventFields.TypeRef

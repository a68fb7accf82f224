import EventFields.Proofs.TypeRef.Grammar

/-!
# Why a text is not a type

A text that is refused can be told from one that is read by going through it once
from left to right, counting the open brackets.  At each place the count, and
whether a name or an argument is complete there, decide if something is wrong.
The first place where something is wrong determines the error, although the reader
may be deep inside of nested arguments there.

The reader and the scan go through the text together: where the reader has read a
type, the scan goes on behind a complete type at the same depth, and where the
reader fails, the scan stops.
-/

namespace EventFields.TypeRef

open Text (isBlank trimStart trim Blanks)

/-- What a scan is in the middle of. -/
inductive Stage where
  /-- A name, of which a character that is not blank has been seen or not. -/
  | naming (named : Bool)
  /-- A type or an argument whose bracket has been closed. -/
  | closed
  deriving DecidableEq

/-- A place in a text, described by what stands before it. -/
structure Place where
  /-- The number of brackets that are open. -/
  depth : Nat
  stage : Stage

/-- What is wrong at a place. -/
inductive Offence where
  /-- A name has no characters but blanks. -/
  | blankName
  /-- A complete argument is not followed by a comma or a closing bracket. -/
  | unbalanced
  /-- A complete type is followed by more than blanks. -/
  | trailing
  deriving DecidableEq

/-- The error for a whole text and what is left of it at the place of the offence. -/
def Offence.error (input : String) (rest : List Char) : Offence → TypeError
  | blankName => .emptyName input
  | unbalanced => .unbalanced input
  | trailing => .trailingInput input (String.ofList (trim rest))

/-- The offence that a reader reports as a fault. -/
def Fault.offence : Fault → Offence
  | emptyName => .blankName
  | unbalanced => .unbalanced

namespace Place

/-- The place in front of a text. -/
def start : Place := ⟨0, .naming false⟩

/-- The place behind one more character. -/
def advance (place : Place) (c : Char) : Place :=
  if c = '<' then ⟨place.depth + 1, .naming false⟩
  else if c = ',' then ⟨place.depth, .naming false⟩
  else if c = '>' then ⟨place.depth - 1, .closed⟩
  else
    match place.stage with
    | .naming named => ⟨place.depth, .naming (named || !isBlank c)⟩
    | .closed => place

/-- A name that ends at a place in front of `rest` is blank. -/
def endsBlank (place : Place) (rest : List Char) : Bool :=
  place.stage = .naming false && rest.head?.all isDelimiter

/-- A type or an argument is complete at a place in front of `rest`. -/
def completes (place : Place) (rest : List Char) : Bool :=
  match place.stage with
  | .naming named => named && rest.head?.all fun c => c = ',' || c = '>'
  | .closed => true

/-- What is wrong at a place in front of `rest`, if anything is. -/
def offence? (place : Place) (rest : List Char) : Option Offence :=
  if place.endsBlank rest then
    some .blankName
  else if place.completes rest then
    if place.depth = 0 then
      if Blanks rest then none else some .trailing
    else if (trimStart rest).head?.any fun c => c = ',' || c = '>' then
      none
    else
      some .unbalanced
  else
    none

end Place

/-- Something is wrong in a text that starts at a place, and `rest` is left of it at the
first place, from left to right, where that is so. -/
def FirstOffence (place : Place) (text : List Char) (offence : Offence)
    (rest : List Char) : Prop :=
  ∃ read, text = read ++ rest ∧ (read.foldl Place.advance place).offence? rest = some offence ∧
    ∀ earlier later, text = earlier ++ later → earlier.length < read.length →
      (earlier.foldl Place.advance place).offence? later = none

/-- Goes through a text from a place on, up to the first offence.  Tells the offence and the
text that is left there. -/
def firstOffence? (place : Place) (text : List Char) : Option (Offence × List Char) :=
  match place.offence? text, text with
  | some offence, rest => some (offence, rest)
  | none, [] => none
  | none, c :: text => firstOffence? (place.advance c) text

/-! ## One place -/

theorem firstOffence?_of_offence {place : Place} {text : List Char} {offence : Offence}
    (wrong : place.offence? text = some offence) :
    firstOffence? place text = some (offence, text) := by
  rw [firstOffence?.eq_def]
  simp only [wrong]

theorem firstOffence?_nil {place : Place} (fine : place.offence? [] = none) :
    firstOffence? place [] = none := by
  rw [firstOffence?.eq_def]
  simp only [fine]

theorem firstOffence?_cons {place : Place} {c : Char} {text : List Char}
    (fine : place.offence? (c :: text) = none) :
    firstOffence? place (c :: text) = firstOffence? (place.advance c) text := by
  rw [firstOffence?.eq_def]
  simp only [fine]

theorem firstOffence_iff_of_offence {place : Place} {text rest : List Char}
    {found offence : Offence} (wrong : place.offence? text = some found) :
    FirstOffence place text offence rest ↔ found = offence ∧ text = rest := by
  constructor
  · rintro ⟨read, rfl, found', first⟩
    cases read with
    | nil => exact ⟨Option.some.inj (wrong.symm.trans found'), rfl⟩
    | cons c read =>
        have fine : place.offence? (c :: read ++ rest) = none := first [] _ rfl (by simp)
        rw [fine] at wrong
        cases wrong
  · rintro ⟨rfl, rfl⟩
    exact ⟨[], rfl, wrong, by simp⟩

theorem firstOffence_cons_iff {place : Place} {c : Char} {text rest : List Char}
    {offence : Offence} (fine : place.offence? (c :: text) = none) :
    FirstOffence place (c :: text) offence rest ↔
      FirstOffence (place.advance c) text offence rest := by
  constructor
  · rintro ⟨read, split, wrong, first⟩
    cases read with
    | nil =>
        rw [split] at fine
        exact absurd (fine.symm.trans wrong) nofun
    | cons d read =>
        obtain ⟨rfl, rfl⟩ := List.cons.inj split
        refine ⟨read, rfl, wrong, fun earlier later inner shorter => ?_⟩
        exact first (c :: earlier) later (congrArg (c :: ·) inner) (Nat.succ_lt_succ shorter)
  · rintro ⟨read, rfl, wrong, first⟩
    refine ⟨c :: read, rfl, wrong, fun earlier later split shorter => ?_⟩
    cases earlier with
    | nil =>
        obtain rfl : c :: (read ++ rest) = later := split
        exact fine
    | cons d earlier =>
        obtain ⟨rfl, inner⟩ := List.cons.inj split
        exact first earlier later inner (Nat.lt_of_succ_lt_succ shorter)

/-- What is found by going through a text is the first offence in it. -/
theorem firstOffence?_eq_some_iff {place : Place} {text rest : List Char} {offence : Offence} :
    firstOffence? place text = some (offence, rest) ↔ FirstOffence place text offence rest := by
  induction text generalizing place with
  | nil =>
      cases wrong : place.offence? [] with
      | some found =>
          rw [firstOffence?_of_offence wrong, firstOffence_iff_of_offence wrong]
          simp
      | none =>
          rw [firstOffence?_nil wrong]
          constructor
          · nofun
          · rintro ⟨read, split, found, -⟩
            obtain ⟨rfl, rfl⟩ := List.append_eq_nil_iff.1 split.symm
            exact absurd (wrong.symm.trans found) nofun
  | cons c text ih =>
      cases wrong : place.offence? (c :: text) with
      | some found =>
          rw [firstOffence?_of_offence wrong, firstOffence_iff_of_offence wrong]
          simp
      | none => rw [firstOffence?_cons wrong, firstOffence_cons_iff wrong, ih]

/-! ## Runs and blanks -/

theorem isDelimiter_eq_false_iff {c : Char} :
    isDelimiter c = false ↔ c ≠ '<' ∧ c ≠ '>' ∧ c ≠ ',' := by
  simp [isDelimiter, and_assoc]

theorem Place.advance_of_undelimited {c : Char} (undelimited : isDelimiter c = false)
    (depth : Nat) (named : Bool) :
    advance ⟨depth, .naming named⟩ c = ⟨depth, .naming (named || !isBlank c)⟩ := by
  simp [advance, isDelimiter_eq_false_iff.1 undelimited]

theorem Place.advance_of_blank {c : Char} (blank : isBlank c = true) (depth : Nat) :
    advance ⟨depth, .closed⟩ c = ⟨depth, .closed⟩ := by
  have blanks : Blanks [c] := by simpa [Blanks] using blank
  have undelimited := undelimited_of_blanks blanks c List.mem_cons_self
  simp [advance, isDelimiter_eq_false_iff.1 undelimited]

theorem Place.offence?_of_undelimited {c : Char} (undelimited : isDelimiter c = false)
    (depth : Nat) (named : Bool) (text : List Char) :
    offence? ⟨depth, .naming named⟩ (c :: text) = none := by
  have incomplete : (c = ',' || c = '>') = false := by
    simp [isDelimiter_eq_false_iff.1 undelimited]
  simp [offence?, endsBlank, completes, undelimited, incomplete]

/-- Nothing is wrong within a run, and behind it there is a name unless it is blank. -/
theorem firstOffence?_run {run : List Char} (undelimited : ∀ c ∈ run, isDelimiter c = false)
    (depth : Nat) (named : Bool) (rest : List Char) :
    firstOffence? ⟨depth, .naming named⟩ (run ++ rest) =
      firstOffence? ⟨depth, .naming (named || !run.all isBlank)⟩ rest := by
  induction run generalizing named with
  | nil => simp
  | cons c run ih =>
      obtain ⟨first, inner⟩ := List.forall_mem_cons.1 undelimited
      rw [List.cons_append, firstOffence?_cons (Place.offence?_of_undelimited first depth named _),
        Place.advance_of_undelimited first, ih inner, List.all_cons, Bool.not_and, Bool.or_assoc]

theorem delimited_afterName (input : List Char) :
    ∀ c ∈ (afterName input).head?, isDelimiter c = true := by
  intro c member
  have stopped := List.head?_dropWhile_not (fun c => !isDelimiter c) input
  rw [afterName] at member
  rw [Option.mem_def.1 member] at stopped
  simpa using stopped

theorem stops_afterName {input : List Char} (noBracket : ∀ inner, afterName input ≠ '<' :: inner) :
    Stops (afterName input) := by
  intro c member
  have delimiter := delimited_afterName input c member
  obtain ⟨rest, split⟩ := List.head?_eq_some_iff.1 member
  have notOpening : c ≠ '<' := by
    rintro rfl
    exact noBracket rest split
  simpa [isDelimiter, notOpening, or_comm] using delimiter

/-- A name in front of a text is found to be blank where it ends, or is gone through. -/
theorem firstOffence?_name (input : List Char) (depth : Nat) :
    firstOffence? ⟨depth, .naming false⟩ input =
      if trim (nameRun input) = [] then some (.blankName, afterName input)
      else firstOffence? ⟨depth, .naming true⟩ (afterName input) := by
  have inRun : ∀ c ∈ nameRun input, isDelimiter c = false := fun _ =>
    isDelimiter_of_mem_nameRun
  have blankRun : (nameRun input).all isBlank = true ↔ trim (nameRun input) = [] := by
    rw [Text.trim_eq_nil_iff, Blanks, List.all_eq_true]
  have gone := firstOffence?_run inRun depth false (afterName input)
  rw [nameRun_append_afterName, Bool.false_or] at gone
  rw [gone]
  by_cases unnamed : trim (nameRun input) = []
  · rw [if_pos unnamed, blankRun.2 unnamed]
    refine firstOffence?_of_offence ?_
    have ends : (afterName input).head?.all isDelimiter = true := by
      simpa [Option.all_eq_true] using delimited_afterName input
    simp [Place.offence?, Place.endsBlank, ends]
  · rw [if_neg unnamed, Bool.eq_false_iff.2 (mt blankRun.1 unnamed), Bool.not_false]

/-- Behind a name that nothing opens, a type is complete just as behind a bracket. -/
theorem firstOffence?_stops {rest : List Char} (stops : Stops rest) (depth : Nat) :
    firstOffence? ⟨depth, .naming true⟩ rest = firstOffence? ⟨depth, .closed⟩ rest := by
  have complete : rest.head?.all (fun c => c = ',' || c = '>') = true := by
    simpa [Option.all_eq_true, Stops, or_comm] using stops
  have sameOffence : Place.offence? ⟨depth, .naming true⟩ rest =
      Place.offence? ⟨depth, .closed⟩ rest := by
    simp [Place.offence?, Place.endsBlank, Place.completes, complete]
  cases wrong : Place.offence? ⟨depth, .closed⟩ rest with
  | some offence =>
      rw [firstOffence?_of_offence wrong, firstOffence?_of_offence (sameOffence.trans wrong)]
  | none =>
      cases rest with
      | nil => rw [firstOffence?_nil wrong, firstOffence?_nil (sameOffence.trans wrong)]
      | cons c rest =>
          rw [firstOffence?_cons wrong, firstOffence?_cons (sameOffence.trans wrong)]
          rcases stops c rfl with rfl | rfl <;> rfl

/-- Behind an argument blanks are gone through, up to a comma or a closing bracket. -/
theorem firstOffence?_separator {rest following : List Char} {c : Char}
    (next : trimStart rest = c :: following) (separates : c = ',' ∨ c = '>') (depth : Nat) :
    firstOffence? ⟨depth + 1, .closed⟩ rest =
      firstOffence? (Place.advance ⟨depth + 1, .closed⟩ c) following := by
  have fine {text : List Char} (same : trimStart text = c :: following) :
      Place.offence? ⟨depth + 1, .closed⟩ text = none := by
    simp [Place.offence?, Place.endsBlank, Place.completes, same, separates]
  induction rest with
  | nil => cases next
  | cons d rest ih =>
      rw [firstOffence?_cons (fine next)]
      cases blank : isBlank d with
      | true =>
          have skipped : trimStart (d :: rest) = trimStart rest := by simp [trimStart, blank]
          rw [Place.advance_of_blank blank, ih (skipped ▸ next)]
      | false =>
          have kept : trimStart (d :: rest) = d :: rest := by simp [trimStart, blank]
          rw [kept] at next
          cases next
          rfl

/-- Behind a whole type there may be blanks only. -/
theorem firstOffence?_end (rest : List Char) :
    firstOffence? ⟨0, .closed⟩ rest = if Blanks rest then none else some (.trailing, rest) := by
  have here (text : List Char) : Place.offence? ⟨0, .closed⟩ text =
      if Blanks text then none else some .trailing := by
    simp [Place.offence?, Place.endsBlank, Place.completes]
  by_cases blank : Blanks rest
  · rw [if_pos blank]
    induction rest with
    | nil => exact firstOffence?_nil (by simp [here])
    | cons c rest ih =>
        obtain ⟨first, others⟩ := List.forall_mem_cons.1 blank
        rw [firstOffence?_cons (by simp [here, blank]), Place.advance_of_blank first, ih others]
  · rw [if_neg blank]
    exact firstOffence?_of_offence (by simp [here, blank])

/-! ## Readers and scans -/

/-- A reader and a scan agree: where the reader has come to a rest, the scan goes on there
behind a complete type, and where the reader fails, the scan has stopped for that. -/
def Agrees {α : Type} {input : List Char} (depth : Nat)
    (result : Except Fault (Parsed α input)) (scanned : Option (Offence × List Char)) : Prop :=
  match result with
  | .ok parsed => scanned = firstOffence? ⟨depth, .closed⟩ parsed.rest
  | .error fault => ∃ rest, scanned = some (fault.offence, rest)

mutual

/-- A scan goes through a type as its reader does, at any depth. -/
theorem agrees_readType (input : List Char) (depth : Nat) :
    Agrees depth (readType input) (firstOffence? ⟨depth, .naming false⟩ input) := by
  rw [firstOffence?_name, readType]
  by_cases named : trim (nameRun input) ≠ []
  · have shorter := length_afterName_lt named
    rw [dif_pos named, if_neg named]
    split
    · next inner after =>
      have inner_lt : inner.length < input.length := by
        rw [after, List.length_cons] at shorter
        omega
      have opened : firstOffence? ⟨depth, .naming true⟩ (afterName input) =
          firstOffence? ⟨depth + 1, .naming false⟩ inner := by
        rw [after, firstOffence?_cons (by simp [Place.offence?, Place.endsBlank, Place.completes])]
        rfl
      have agrees := agrees_readArguments inner depth
      rw [opened]
      split
      · next fault failed =>
        rw [failed] at agrees
        exact agrees
      · next arguments found =>
        rw [found] at agrees
        exact agrees
    · next noBracket => exact firstOffence?_stops (stops_afterName noBracket) depth
  · rw [dif_neg named, if_pos (not_not.1 named)]
    exact ⟨_, rfl⟩
termination_by 2 * input.length

/-- A scan goes through arguments as their reader does, and comes back from them. -/
theorem agrees_readArguments (input : List Char) (depth : Nat) :
    Agrees depth (readArguments input) (firstOffence? ⟨depth + 1, .naming false⟩ input) := by
  have agreesFirst := agrees_readType input (depth + 1)
  rw [readArguments]
  split
  · next fault failed =>
    rw [failed] at agreesFirst
    exact agreesFirst
  · next first found =>
    have trimmed_le := Text.length_trimStart_le first.rest
    have first_lt := first.rest_lt
    have gone : firstOffence? ⟨depth + 1, .naming false⟩ input =
        firstOffence? ⟨depth + 1, .closed⟩ first.rest := by
      rw [found] at agreesFirst
      exact agreesFirst
    rw [gone]
    split
    · next following after =>
      have following_lt : following.length < input.length := by
        rw [after, List.length_cons] at trimmed_le
        omega
      have agreesOthers := agrees_readArguments following depth
      have separated : firstOffence? ⟨depth + 1, .closed⟩ first.rest =
          firstOffence? ⟨depth + 1, .naming false⟩ following :=
        firstOffence?_separator after (.inl rfl) depth
      rw [separated]
      split
      · next fault failed =>
        rw [failed] at agreesOthers
        exact agreesOthers
      · next others foundOthers =>
        rw [foundOthers] at agreesOthers
        exact agreesOthers
    · next rest after => exact firstOffence?_separator after (.inr rfl) depth
    · next noComma noBracket =>
      have other : (trimStart first.rest).head?.any (fun c => c = ',' || c = '>') = false := by
        cases left : trimStart first.rest with
        | nil => rfl
        | cons c rest =>
            have comma : c ≠ ',' := fun same => noComma rest (same ▸ left)
            have bracket : c ≠ '>' := fun same => noBracket rest (same ▸ left)
            simp [comma, bracket]
      refine ⟨first.rest, firstOffence?_of_offence ?_⟩
      simp [Place.offence?, Place.endsBlank, Place.completes, other, Fault.offence]
termination_by 2 * input.length + 1

end

/-! ## Whole texts -/

/-- A text is refused exactly if a scan finds something wrong, and the error is that of
the first offence.

* A blank name, at the start, behind `<` or behind `,`, is an empty name.
* A complete argument followed by blanks and something else than `,` or `>`, or by the
  end, is unbalanced.
* A complete type, with no bracket open, followed by more than blanks is trailing
  input; the error tells what is left, trimmed.

The error always tells the whole text. -/
theorem parse_eq_error_iff (input : String) (error : TypeError) :
    parse input = .error error ↔ ∃ offence rest,
      FirstOffence .start input.toList offence rest ∧ offence.error input rest = error := by
  simp only [← firstOffence?_eq_some_iff]
  have agrees := agrees_readType input.toList 0
  simp only [parse]
  split
  · next fault failed =>
    rw [failed] at agrees
    obtain ⟨rest, scanned⟩ := agrees
    have reported : fault.toError input = fault.offence.error input rest := by
      cases fault <;> rfl
    simp [Place.start, scanned, reported]
  · next type found =>
    rw [found] at agrees
    have scanned : firstOffence? .start input.toList = firstOffence? ⟨0, .closed⟩ type.rest :=
      agrees
    rw [scanned, firstOffence?_end]
    by_cases blank : Blanks type.rest
    · simp [Text.trim_eq_nil_iff, blank]
    · simp [Text.trim_eq_nil_iff, blank, Offence.error]

example : firstOffence? .start "A<B<C>D, >".toList = some (.unbalanced, "D, >".toList) := by
  decide

end EventFields.TypeRef

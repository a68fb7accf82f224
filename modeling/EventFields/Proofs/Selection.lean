import EventFields.Selection
import Mathlib.Data.List.Basic

/-!
# What a selection depends on

Patterns are read one by one, and an interface is included or excluded if one of
them occurs in its subject.  What matters is therefore only which patterns a list
has.  Whether a list can be used at all is another matter: patterns that are
searched for together must not be too large together, so that a list may be refused
although each of its patterns can be read, and parts of the list can be used.
-/

namespace EventFields.Selection

variable {texts : List String} {patterns : List Pattern} {subject : String}

/-- Every text can be read as a pattern. -/
def Readable (texts : List String) : Prop :=
  ∀ text ∈ texts, ∃ pattern, Pattern.parse text = .ok pattern

/-- A list of patterns can be used: it can be read, and is not too large. -/
def Valid (texts : List String) : Prop :=
  ∃ patterns, parsePatterns texts = .ok patterns

/-- The patterns of a list can be read, but are too large to be searched for together. -/
def TooLarge (texts : List String) : Prop :=
  ∃ patterns, readPatterns texts = .ok patterns ∧ Pattern.fit patterns = false

/-- One of the texts is a pattern that occurs in the subject. -/
def Matches (texts : List String) (subject : String) : Prop :=
  ∃ text ∈ texts, ∃ pattern, Pattern.parse text = .ok pattern ∧
    pattern.occursIn subject = true

/-! ## Reading lists -/

theorem readPatterns_cons_eq_ok_iff {text : String} :
    readPatterns (text :: texts) = .ok patterns ↔
      ∃ pattern others, Pattern.parse text = .ok pattern ∧
        readPatterns texts = .ok others ∧ patterns = pattern :: others := by
  rw [readPatterns]
  cases Pattern.parse text with
  | error fault => simp
  | ok pattern =>
      cases readPatterns texts with
      | error fault => simp
      | ok others => simp [eq_comm]

/-- A list can be read exactly if each of its texts can. -/
theorem exists_readPatterns_iff :
    (∃ patterns, readPatterns texts = .ok patterns) ↔ Readable texts := by
  induction texts with
  | nil => exact iff_of_true ⟨[], rfl⟩ (by simp [Readable])
  | cons text rest ih =>
      simp only [Readable, List.forall_mem_cons] at ih ⊢
      rw [← ih]
      constructor
      · intro read
        obtain ⟨patterns, read⟩ := read
        obtain ⟨pattern, others, parsed, readOthers, -⟩ := readPatterns_cons_eq_ok_iff.1 read
        exact ⟨⟨pattern, parsed⟩, others, readOthers⟩
      · intro read
        obtain ⟨⟨pattern, parsed⟩, others, readOthers⟩ := read
        exact ⟨_, readPatterns_cons_eq_ok_iff.2 ⟨pattern, others, parsed, readOthers, rfl⟩⟩

theorem mem_patterns_iff (read : readPatterns texts = .ok patterns) {pattern : Pattern} :
    pattern ∈ patterns ↔ ∃ text ∈ texts, Pattern.parse text = .ok pattern := by
  induction texts generalizing patterns with
  | nil =>
      cases read
      simp
  | cons text rest ih =>
      obtain ⟨first, others, parsed, readOthers, split⟩ := readPatterns_cons_eq_ok_iff.1 read
      rw [split, List.mem_cons, ih readOthers, List.exists_mem_cons_iff, parsed]
      simp [eq_comm]

theorem patterns_eq_nil_iff (read : readPatterns texts = .ok patterns) :
    patterns = [] ↔ texts = [] := by
  cases texts with
  | nil =>
      cases read
      simp
  | cons text rest =>
      obtain ⟨first, others, -, -, split⟩ := readPatterns_cons_eq_ok_iff.1 read
      simp [split]

theorem occurs_iff (read : readPatterns texts = .ok patterns) :
    occurs patterns subject = true ↔ Matches texts subject := by
  simp only [occurs, List.any_eq_true, mem_patterns_iff read, Matches]
  constructor
  · intro occurring
    obtain ⟨pattern, ⟨text, member, parsed⟩, found⟩ := occurring
    exact ⟨text, member, pattern, parsed, found⟩
  · intro matching
    obtain ⟨text, member, pattern, parsed, found⟩ := matching
    exact ⟨pattern, ⟨text, member, parsed⟩, found⟩

/-! ## Using lists -/

theorem parsePatterns_eq_ok_iff :
    parsePatterns texts = .ok patterns ↔
      readPatterns texts = .ok patterns ∧ Pattern.fit patterns = true := by
  rw [parsePatterns]
  cases readPatterns texts with
  | error fault => simp
  | ok read =>
      simp only [Except.ok.injEq]
      split
      · next fits =>
        constructor
        · intro same
          cases same
          exact ⟨rfl, fits⟩
        · intro used
          rw [used.1]
      · next large =>
        constructor
        · intro same
          cases same
        · intro used
          exact absurd (used.1 ▸ used.2) large

theorem Valid.readable (valid : Valid texts) : Readable texts := by
  obtain ⟨patterns, used⟩ := valid
  exact exists_readPatterns_iff.1 ⟨patterns, (parsePatterns_eq_ok_iff.1 used).1⟩

/-- A list that can be read can be used, unless it is too large. -/
theorem Readable.cases (readable : Readable texts) :
    Valid texts ∨ (TooLarge texts ∧ parsePatterns texts = .error .tooLarge) := by
  obtain ⟨patterns, read⟩ := exists_readPatterns_iff.2 readable
  cases fits : Pattern.fit patterns with
  | true => exact .inl ⟨patterns, parsePatterns_eq_ok_iff.2 ⟨read, fits⟩⟩
  | false => exact .inr ⟨⟨patterns, read, fits⟩, by simp [parsePatterns, read, fits]⟩

/-! ## Selections -/

variable {toInclude toExclude : List String} {selection : Selection} {interface : Interface}

theorem parse_eq_ok_iff :
    parse toInclude toExclude = .ok selection ↔
      parsePatterns toInclude = .ok selection.included ∧
        parsePatterns toExclude = .ok selection.excluded := by
  rw [parse]
  cases parsePatterns toInclude with
  | error fault => simp
  | ok included =>
      cases parsePatterns toExclude with
      | error fault => simp
      | ok excluded =>
          cases selection
          simp

/-- A selection with some property is made of two lists. -/
def Makes (toInclude toExclude : List String) (property : Selection → Prop) : Prop :=
  ∃ selection, parse toInclude toExclude = .ok selection ∧ property selection

/-- No selection is made because the list to include is too large. -/
structure RefusesInclude (toInclude toExclude : List String) : Prop where
  large : TooLarge toInclude
  refused : parse toInclude toExclude = .error (.invalidInclude .tooLarge)

/-- No selection is made because the list to exclude is too large. -/
structure RefusesExclude (toInclude toExclude : List String) : Prop where
  large : TooLarge toExclude
  refused : parse toInclude toExclude = .error (.invalidExclude .tooLarge)

theorem Readable.valid_or_refusesInclude (readable : Readable toInclude)
    (toExclude : List String) : Valid toInclude ∨ RefusesInclude toInclude toExclude := by
  cases readable.cases with
  | inl valid => exact .inl valid
  | inr large =>
      right
      exact ⟨large.1, by rw [parse, large.2]⟩

theorem Readable.valid_or_refusesExclude (readable : Readable toExclude)
    (valid : Valid toInclude) : Valid toExclude ∨ RefusesExclude toInclude toExclude := by
  obtain ⟨included, used⟩ := valid
  cases readable.cases with
  | inl valid => exact .inl valid
  | inr large =>
      right
      exact ⟨large.1, by rw [parse, used, large.2]⟩

/-- Lists that can be used make a selection. -/
theorem Valid.makes {property : Selection → Prop} (validInclude : Valid toInclude)
    (validExclude : Valid toExclude)
    (holds : ∀ selection, parse toInclude toExclude = .ok selection → property selection) :
    Makes toInclude toExclude property := by
  obtain ⟨included, usedIncluded⟩ := validInclude
  obtain ⟨excluded, usedExcluded⟩ := validExclude
  have parsed : parse toInclude toExclude = .ok ⟨included, excluded⟩ :=
    parse_eq_ok_iff.2 ⟨usedIncluded, usedExcluded⟩
  exact ⟨_, parsed, holds _ parsed⟩

theorem valid_of_parse (made : parse toInclude toExclude = .ok selection) :
    Valid toInclude ∧ Valid toExclude := by
  obtain ⟨usedIncluded, usedExcluded⟩ := parse_eq_ok_iff.1 made
  exact ⟨⟨_, usedIncluded⟩, ⟨_, usedExcluded⟩⟩

/-- An interface is included if there is nothing to include or one of the patterns to include
occurs in its subject, and no pattern to exclude does. -/
theorem includes_iff (made : parse toInclude toExclude = .ok selection) :
    selection.includes interface = true ↔
      (toInclude = [] ∨ Matches toInclude interface.subject) ∧
        ¬ Matches toExclude interface.subject := by
  obtain ⟨usedIncluded, usedExcluded⟩ := parse_eq_ok_iff.1 made
  have readIncluded := (parsePatterns_eq_ok_iff.1 usedIncluded).1
  have readExcluded := (parsePatterns_eq_ok_iff.1 usedExcluded).1
  rw [← patterns_eq_nil_iff readIncluded, ← occurs_iff readIncluded, ← occurs_iff readExcluded]
  simp [includes]

/-! ## Longer and rearranged lists -/

variable {texts' toInclude' toExclude' more : List String} {selection' : Selection}

/-- A pattern that matches is found in any list that has it. -/
theorem Matches.mono (listed : texts ⊆ texts') (matching : Matches texts subject) :
    Matches texts' subject := by
  obtain ⟨text, member, found⟩ := matching
  exact ⟨text, listed member, found⟩

theorem Readable.mono (listed : texts' ⊆ texts) (readable : Readable texts) :
    Readable texts' := by
  intro text member
  exact readable text (listed member)

theorem Readable.append (left : Readable texts) (right : Readable texts') :
    Readable (texts ++ texts') := by
  intro text member
  cases List.mem_append.1 member with
  | inl member => exact left text member
  | inr member => exact right text member

/-- With more patterns to exclude, no other interface is included. -/
theorem includes_of_more_excluded (made : parse toInclude toExclude = .ok selection)
    (made' : parse toInclude toExclude' = .ok selection') (listed : toExclude ⊆ toExclude')
    (included : selection'.includes interface = true) : selection.includes interface = true := by
  rw [includes_iff made'] at included
  rw [includes_iff made]
  exact ⟨included.1, mt (Matches.mono listed) included.2⟩

/-- With more patterns to include, no interface is left out, unless there were none before. -/
theorem includes_of_more_included (made : parse toInclude toExclude = .ok selection)
    (made' : parse toInclude' toExclude = .ok selection') (given : toInclude ≠ [])
    (listed : toInclude ⊆ toInclude') (included : selection.includes interface = true) :
    selection'.includes interface = true := by
  rw [includes_iff made] at included
  rw [includes_iff made']
  exact ⟨.inr ((included.1.resolve_left given).mono listed), included.2⟩

/-- Only which patterns the lists have matters to which interfaces are included. -/
theorem includes_eq (made : parse toInclude toExclude = .ok selection)
    (made' : parse toInclude' toExclude' = .ok selection')
    (sameIncluded : ∀ text, text ∈ toInclude ↔ text ∈ toInclude')
    (sameExcluded : ∀ text, text ∈ toExclude ↔ text ∈ toExclude') :
    selection.includes = selection'.includes := by
  funext interface
  have sameEmpty : toInclude = [] ↔ toInclude' = [] := by
    simp only [List.eq_nil_iff_forall_not_mem, sameIncluded]
  rw [Bool.eq_iff_iff, includes_iff made, includes_iff made']
  simp only [Matches, sameIncluded, sameExcluded, sameEmpty]

end EventFields.Selection

import EventFields.Text.Blank
import Mathlib.Data.List.DropRight

/-!
# Trimming

Trimming splits a text into blanks, a core and blanks again.  Blanks added at
either end do not change the core, which is what makes it well defined where a
reader may take blanks with the name before them or leave them behind.
-/

namespace EventFields.Text

/-- A text that consists of blanks. -/
def Blanks (text : List Char) : Prop :=
  ∀ c ∈ text, isBlank c = true

instance (text : List Char) : Decidable (Blanks text) :=
  decidable_of_iff (text.all isBlank = true) List.all_eq_true

@[simp] theorem blanks_nil : Blanks [] := by
  simp [Blanks]

theorem trimStart_blanks_append {front : List Char} (blank : Blanks front)
    (text : List Char) : trimStart (front ++ text) = trimStart text :=
  List.dropWhile_append_of_pos blank

@[simp] theorem trimStart_eq_nil_iff {text : List Char} :
    trimStart text = [] ↔ Blanks text :=
  List.dropWhile_eq_nil_iff

/-- The blanks at the start of a text are what trimming takes from there. -/
theorem exists_trimStart (text : List Char) :
    ∃ front, Blanks front ∧ text = front ++ trimStart text := by
  refine ⟨text.takeWhile isBlank, ?_, List.takeWhile_append_dropWhile.symm⟩
  intro c member
  exact List.mem_takeWhile_imp member

theorem trimEnd_append_blanks {back : List Char} (blank : Blanks back)
    (text : List Char) : trimEnd (text ++ back) = trimEnd text := by
  have reversed : Blanks back.reverse := fun c member =>
    blank c (List.mem_reverse.1 member)
  rw [trimEnd, List.reverse_append, List.dropWhile_append_of_pos reversed, trimEnd]

/-- The blanks at the end of a text are what trimming takes from there. -/
theorem exists_trimEnd (text : List Char) :
    ∃ back, Blanks back ∧ text = trimEnd text ++ back := by
  obtain ⟨front, blank, split⟩ := exists_trimStart text.reverse
  refine ⟨front.reverse, fun c member => blank c (List.mem_reverse.1 member), ?_⟩
  have reversed := congrArg List.reverse split
  rwa [List.reverse_reverse, List.reverse_append] at reversed

@[simp] theorem trimEnd_eq_nil_iff {text : List Char} : trimEnd text = [] ↔ Blanks text := by
  simp [trimEnd, Blanks]

/-- A character that is not blank is kept, and so is one with such a character
behind it. -/
theorem trimEnd_cons {c : Char} {text : List Char}
    (kept : isBlank c = false ∨ ¬ Blanks text) : trimEnd (c :: text) = c :: trimEnd text := by
  have emptied : (text.reverse.dropWhile isBlank).isEmpty = true ↔ Blanks text := by
    simp [Blanks]
  simp only [trimEnd, List.reverse_cons, List.dropWhile_append]
  by_cases blank : Blanks text
  · have solid : isBlank c = false := kept.resolve_right (not_not_intro blank)
    have nothing : text.reverse.dropWhile isBlank = [] := List.isEmpty_iff.1 (emptied.2 blank)
    simp [nothing, solid]
  · rw [if_neg (mt emptied.1 blank), List.reverse_append]
    rfl

theorem trim_blanks_append {front : List Char} (blank : Blanks front)
    (text : List Char) : trim (front ++ text) = trim text := by
  rw [trim, trimStart_blanks_append blank, trim]

theorem trim_append_blanks {back : List Char} (blank : Blanks back)
    (text : List Char) : trim (text ++ back) = trim text := by
  by_cases empty : trimStart text = []
  · have textBlank : Blanks text := trimStart_eq_nil_iff.1 empty
    have nothing : trimStart back = [] := trimStart_eq_nil_iff.2 blank
    rw [trim, trimStart_blanks_append textBlank, nothing, trim, empty]
  · have kept : trimStart (text ++ back) = trimStart text ++ back := by
      simp only [trimStart] at empty ⊢
      rw [List.dropWhile_append, if_neg (by simpa using empty)]
    rw [trim, kept, trimEnd_append_blanks blank, trim]

/-- A text is its core with blanks around it. -/
theorem exists_trim (text : List Char) :
    ∃ front back, Blanks front ∧ Blanks back ∧ text = front ++ trim text ++ back := by
  obtain ⟨front, frontBlank, frontSplit⟩ := exists_trimStart text
  obtain ⟨back, backBlank, backSplit⟩ := exists_trimEnd (trimStart text)
  refine ⟨front, back, frontBlank, backBlank, ?_⟩
  rw [trim, List.append_assoc, ← backSplit, ← frontSplit]

@[simp] theorem trim_trim (text : List Char) : trim (trim text) = trim text := by
  obtain ⟨front, back, frontBlank, backBlank, split⟩ := exists_trim text
  have whole := congrArg trim split
  rw [trim_append_blanks backBlank, trim_blanks_append frontBlank] at whole
  exact whole.symm

theorem mem_of_mem_trim {text : List Char} {c : Char} (member : c ∈ trim text) :
    c ∈ text := by
  obtain ⟨front, back, -, -, split⟩ := exists_trim text
  rw [split]
  simp [member]

theorem trim_eq_nil_iff {text : List Char} : trim text = [] ↔ Blanks text := by
  constructor
  · intro empty
    obtain ⟨front, back, frontBlank, backBlank, split⟩ := exists_trim text
    rw [empty, List.append_nil] at split
    rw [split]
    intro c member
    rcases List.mem_append.1 member with inFront | inBack
    · exact frontBlank c inFront
    · exact backBlank c inBack
  · intro blank
    have core := trim_append_blanks blank []
    rwa [List.nil_append, trim_nil] at core

end EventFields.Text

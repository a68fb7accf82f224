import EventFields.TypeRef.Parser

/-!
# Reading by positions

A reader may leave its text as it is and keep the position that it has come to, in
bytes.  Whenever it looks at the text it slices it there, which goes wrong within a
character and behind the end.  The reader of this module does so, and otherwise does what
the reader of characters does, step by step; what remains to be seen is that no slice goes
wrong, and that both come to the same.
-/

namespace EventFields.TypeRef

/-! ## Slices -/

/-- The number of bytes that a text takes. -/
def byteSize : List Char → Nat
  | [] => 0
  | c :: rest => c.utf8Size + byteSize rest

/-- The text from a position on.  There is none within a character or behind the end. -/
def sliceFrom? : List Char → Nat → Option (List Char)
  | text, 0 => some text
  | [], _ + 1 => none
  | c :: rest, position + 1 =>
      if c.utf8Size ≤ position + 1 then sliceFrom? rest (position + 1 - c.utf8Size) else none

/-- The text between two positions. -/
def slice? (text : List Char) (start stop : Nat) : Option (List Char) :=
  match sliceFrom? text start, sliceFrom? text stop with
  | some behindStart, some behindStop =>
      if start ≤ stop then some (behindStart.take (behindStart.length - behindStop.length))
      else none
  | _, _ => none

theorem lt_byteSize_of_sliceFrom? {text rest : List Char} {c : Char} {position : Nat}
    (slice : sliceFrom? text position = some (c :: rest)) : position < byteSize text := by
  fun_induction sliceFrom? text position with
  | case1 text =>
      cases slice
      exact Nat.lt_of_lt_of_le c.utf8Size_pos (Nat.le_add_right _ _)
  | case2 => cases slice
  | case3 first others position fits ih =>
      have later := ih slice
      simp only [byteSize]
      omega
  | case4 => cases slice

/-- The position behind the characters that satisfy a condition. -/
def advance? (condition : Char → Bool) (text : List Char) (position : Nat) :
    Option { stop : Nat // position ≤ stop } :=
  match _ : sliceFrom? text position with
  | none => none
  | some [] => some ⟨position, Nat.le_refl position⟩
  | some (c :: _) =>
      if condition c then
        match advance? condition text (position + c.utf8Size) with
        | none => none
        | some stop => some ⟨stop.val, Nat.le_trans (Nat.le_add_right _ _) stop.property⟩
      else
        some ⟨position, Nat.le_refl position⟩
termination_by byteSize text - position
decreasing_by
  have within := lt_byteSize_of_sliceFrom? ‹sliceFrom? text position = some _›
  have positive := c.utf8Size_pos
  omega

/-! ## Readers -/

/-- How reading from a position ends. -/
inductive Ending (α : Type) (start : Nat) where
  /-- A slice went wrong. -/
  | panicked
  | failed (fault : Fault)
  /-- A value has been read up to a position. -/
  | reached (value : α) (stop : Nat) (le : start ≤ stop)

mutual

/-- Reads one type from a position on. -/
def readTypeAt (text : List Char) (start : Nat) : Ending TypeRef start :=
  match advance? (fun c => !isDelimiter c) text start with
  | none => .panicked
  | some ⟨behindName, le⟩ =>
      match slice? text start behindName with
      | none => .panicked
      | some run =>
          if Text.trim run ≠ [] then
            let name := String.ofList (Text.trim run)
            match slice : sliceFrom? text behindName with
            | none => .panicked
            | some ('<' :: _) =>
                match readArgumentsAt text (behindName + 1) with
                | .panicked => .panicked
                | .failed fault => .failed fault
                | .reached arguments stop le' =>
                    .reached (mk name arguments) stop (by omega)
            | some _ => .reached (mk name []) behindName le
          else
            .failed .emptyName
termination_by 2 * (byteSize text - start)
decreasing_by
  have within := lt_byteSize_of_sliceFrom? slice
  omega

/-- Reads the arguments from a position behind an opening bracket on. -/
def readArgumentsAt (text : List Char) (start : Nat) : Ending (List TypeRef) start :=
  match readTypeAt text start with
  | .panicked => .panicked
  | .failed fault => .failed fault
  | .reached first behindType le =>
      match advance? Text.isBlank text behindType with
      | none => .panicked
      | some ⟨behindBlanks, le'⟩ =>
          match slice : sliceFrom? text behindBlanks with
          | none => .panicked
          | some (',' :: _) =>
              match readArgumentsAt text (behindBlanks + 1) with
              | .panicked => .panicked
              | .failed fault => .failed fault
              | .reached others stop le'' => .reached (first :: others) stop (by omega)
          | some ('>' :: _) => .reached [first] (behindBlanks + 1) (by omega)
          | some _ => .failed .unbalanced
termination_by 2 * (byteSize text - start) + 1
decreasing_by
  · omega
  · have within := lt_byteSize_of_sliceFrom? slice
    omega

end

/-- Reads a text that consists of one type and blanks after it, by positions.  There is no
answer if a slice goes wrong. -/
def parseByPosition? (input : String) : Option (Except TypeError TypeRef) :=
  match readTypeAt input.toList 0 with
  | .panicked => none
  | .failed fault => some (.error (fault.toError input))
  | .reached type stop _ =>
      match sliceFrom? input.toList stop with
      | none => none
      | some rest =>
          if Text.trim rest = [] then some (.ok type)
          else some (.error (.trailingInput input (String.ofList (Text.trim rest))))

end EventFields.TypeRef

import EventFields.Json.Draft
import EventFields.Json.Writer
import Mathlib.Data.List.Forall2

/-!
# Scanning what has been written

Brackets, words and strings are scanned as their own tokens whatever stands behind
them, and blanks are scanned as nothing.  So the tokens of a written value are put
together from the tokens of its parts, and blanks between the parts make no
difference.  Numbers are left out: where a number ends depends on what follows.
-/

namespace EventFields.Json.Token

/-- A text that is scanned as the given tokens, whatever follows it. -/
def Scans (text : String) (tokens : List Token) : Prop :=
  ∀ rest, scan (text.toList ++ rest) = tokens ++ scan rest

theorem scan_eq (input : List Char) :
    scan input =
      match input.dropWhile isSpace with
      | [] => []
      | c :: rest =>
          match next? (c :: rest) with
          | none => [broken]
          | some (token, after) => token :: scan after := by
  rw [scan]
  split
  · next blank => simp [blank]
  · next trimmed =>
    split
    · next unread => simp [trimmed, unread]
    · next read => simp [trimmed, read]

theorem scan_nil : scan [] = [] := by
  rw [scan_eq]
  rfl

theorem Scans.empty : Scans "" [] :=
  fun _ => rfl

theorem Scans.append {left right : String} {leftTokens rightTokens : List Token}
    (scansLeft : Scans left leftTokens) (scansRight : Scans right rightTokens) :
    Scans (left ++ right) (leftTokens ++ rightTokens) := by
  intro rest
  rw [String.toList_append, List.append_assoc, scansLeft, scansRight, List.append_assoc]

theorem scans_blanks {text : String} (blank : ∀ c ∈ text.toList, isSpace c = true) :
    Scans text [] := by
  intro rest
  rw [scan_eq, List.dropWhile_append_of_pos blank, ← scan_eq, List.nil_append]

/-- A token that is read from its text whatever follows. -/
theorem scans_of_next? {text : String} {token : Token}
    (solid : text.toList.head?.any (fun c => !isSpace c) = true)
    (read : ∀ rest, next? (text.toList ++ rest) = some (token, rest)) :
    Scans text [token] := by
  intro rest
  have follows := read rest
  cases characters : text.toList with
  | nil => simp [characters] at solid
  | cons first others =>
      rw [characters, List.cons_append] at follows
      rw [scan_eq, List.cons_append, List.dropWhile_cons_of_neg (by simpa [characters] using solid)]
      simp [follows]

/-! ## Words and punctuation -/

theorem scans_openBracket : Scans "[" [openBracket] :=
  scans_of_next? rfl fun _ => rfl

theorem scans_closeBracket : Scans "]" [closeBracket] :=
  scans_of_next? rfl fun _ => rfl

theorem scans_openBrace : Scans "\x7b" [openBrace] :=
  scans_of_next? rfl fun _ => rfl

theorem scans_closeBrace : Scans "\x7d" [closeBrace] :=
  scans_of_next? rfl fun _ => rfl

theorem scans_comma : Scans "," [comma] :=
  scans_of_next? rfl fun _ => rfl

theorem scans_colon : Scans ":" [colon] :=
  scans_of_next? rfl fun _ => rfl

theorem scans_null : Scans "null" [null] :=
  scans_of_next? rfl fun _ => rfl

theorem scans_true : Scans "true" [bool true] :=
  scans_of_next? rfl fun _ => rfl

theorem scans_false : Scans "false" [bool false] :=
  scans_of_next? rfl fun _ => rfl

/-! ## Strings -/

/-- How a character is given in a written string. -/
def partOf (c : Char) : StringPart :=
  if ' ' ≤ c ∨ c ∈ ['\x08', '\x0c', '\n', '\r', '\t'] then .char c else .unit c.toNat

/-- The escape of a control character gives its code. -/
theorem control_escape : ∀ code < 32,
    ("\\u00" ++ (if code < 16 then "0" else "") ++ Text.hexadecimal code).toList =
      ['\\', 'u', '0', '0', if code < 16 then '0' else '1', Nat.digitChar (code % 16)] ∧
    Text.hexValue? ['0', '0', if code < 16 then '0' else '1', Nat.digitChar (code % 16)] =
      some code := by
  decide +kernel

theorem stringParts_writtenCharacter (c : Char) (rest : List Char) :
    stringParts ((writtenCharacter c).toList ++ rest) =
      prepend (some (partOf c)) (stringParts rest) := by
  unfold writtenCharacter
  split
  · next quote => subst quote; rfl
  split
  · next backslash => subst backslash; rfl
  split
  · next backspace => subst backspace; rfl
  split
  · next feed => subst feed; rfl
  split
  · next line => subst line; rfl
  split
  · next carriage => subst carriage; rfl
  split
  · next tab => subst tab; rfl
  split
  · next control =>
    have below : c.toNat < 32 := control
    obtain ⟨escape, value⟩ := control_escape c.toNat below
    rw [escape]
    simp only [List.cons_append, List.nil_append, stringParts, value, Option.map_some]
    have noSpace : ¬ ' ' ≤ c := Char.not_le.2 control
    simp [partOf, *]
  · next noQuote noBackslash _ _ _ _ _ visible =>
    rw [String.toList_singleton, List.singleton_append, stringParts]
    · simp [partOf, noBackslash, visible, Char.not_lt.1 visible]
    · exact noQuote
    · intro _ _ _ _ _ escape
      exact absurd escape noBackslash
    · intro _ _ escape
      exact absurd escape noBackslash

/-- A code unit outside the surrogates is a character by itself. -/
theorem characters?_unit {code : Nat} (below : code < 0xd800) (rest : List StringPart) :
    characters? (.unit code :: rest) = (characters? rest).map (Char.ofNat code :: ·) := by
  have noLeading : isLeading code = false := by simp [isLeading]; omega
  have noTrailing : isTrailing code = false := by simp [isTrailing]; omega
  cases rest with
  | nil => simp [characters?, noLeading, noTrailing]
  | cons next rest => cases next <;> simp [characters?, noLeading, noTrailing]

/-- The parts of a string that stand for characters are those characters. -/
theorem characters?_map_partOf (text : List Char) :
    characters? (text.map partOf) = some text := by
  induction text with
  | nil => rfl
  | cons c rest ih =>
      rw [List.map_cons, partOf]
      split
      · simp [characters?, ih]
      · next control =>
        have below : c.toNat < 32 := Char.not_le.1 fun above => control (.inl above)
        rw [characters?_unit (by omega), ih, Char.ofNat_toNat]
        rfl

theorem stringParts_written (text rest : List Char) :
    stringParts (text.flatMap (fun c => (writtenCharacter c).toList) ++ '"' :: rest) =
      some (text.map partOf, rest) := by
  induction text with
  | nil => rfl
  | cons c text ih =>
      rw [List.flatMap_cons, List.append_assoc, stringParts_writtenCharacter, ih]
      rfl

theorem scans_writtenString (text : String) : Scans (writtenString text) [str text] := by
  have characters : (writtenString text).toList =
      '"' :: (text.toList.flatMap (fun c => (writtenCharacter c).toList) ++ ['"']) := by
    simp [writtenString, String.toList_append, String.toList_join, List.flatMap_map]
  apply scans_of_next?
  · rw [characters]
    rfl
  · intro rest
    rw [characters, List.cons_append, List.append_assoc, List.singleton_append, next?,
      stringParts_written]
    simp [characters?_map_partOf]

end EventFields.Json.Token

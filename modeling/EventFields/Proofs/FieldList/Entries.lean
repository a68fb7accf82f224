import EventFields.Proofs.FieldList
import Mathlib.Data.List.TakeWhile

/-!
# Entries of explicit field lists

An entry with exactly one colon has a text before it and a text after it.  It
stands for a field if the first is not blank and the second is a type.  Otherwise
the first of these three demands that it does not meet is what the error tells.
Lists are read entry by entry, so that the first bad entry decides alone.
-/

namespace EventFields.FieldList

variable {resolver : Resolver} {entry before after : String}

/-- The texts before and after the only colon of an entry. -/
structure Splits (entry before after : String) : Prop where
  split : entry = before ++ ":" ++ after
  one_colon : entry.toList.count ':' = 1

/-- An entry stands for a field. -/
def Denotes (resolver : Resolver) (entry : String) (field : FieldName × TypeRef) : Prop :=
  ∃ before after, Splits entry before after ∧ Text.trimmed before = field.1.text ∧
    resolver after = .ok field.2

/-- Why an entry stands for no field.  An entry without a name is not asked for its
type. -/
inductive Refuses (resolver : Resolver) (entry : String) : ValidationError → Prop
  | malformed : entry.toList.count ':' ≠ 1 → Refuses resolver entry (.malformedEntry entry)
  | nameless {before after : String} : Splits entry before after →
      Text.trimmed before = "" → Refuses resolver entry (.emptyName .field)
  | unresolved {before after : String} {cause : TypeError} : Splits entry before after →
      Text.trimmed before ≠ "" → resolver after = .error cause →
      Refuses resolver entry (.unresolvedType entry cause)

/-! ## The colon -/

theorem Splits.toList_eq (splits : Splits entry before after) :
    entry.toList = before.toList ++ ':' :: after.toList := by
  simp [splits.split]

theorem Splits.no_colon (splits : Splits entry before after) :
    ':' ∉ before.toList ∧ ':' ∉ after.toList := by
  have colons := splits.one_colon
  rw [splits.toList_eq, List.count_append, List.count_cons_self] at colons
  constructor
  · exact List.count_eq_zero.1 (by omega)
  · exact List.count_eq_zero.1 (by omega)

theorem splits_iff : Splits entry before after ↔
    entry = before ++ ":" ++ after ∧ ':' ∉ before.toList ∧ ':' ∉ after.toList := by
  constructor
  · intro splits
    exact ⟨splits.split, splits.no_colon⟩
  · rintro ⟨rfl, inBefore, inAfter⟩
    refine ⟨rfl, ?_⟩
    simp [List.count_eq_zero.2 inBefore, List.count_eq_zero.2 inAfter]

/-- An entry with one colon is split there. -/
theorem exists_splits (one_colon : entry.toList.count ':' = 1) :
    ∃ before after, Splits entry before after := by
  have member : ':' ∈ entry.toList := List.count_pos_iff.1 (by omega)
  obtain ⟨before, after, whole⟩ := List.append_of_mem member
  refine ⟨String.ofList before, String.ofList after, ?_, one_colon⟩
  rw [← String.toList_inj, whole]
  simp

theorem Splits.split?_eq (splits : Splits entry before after) :
    split? entry = some (before, after) := by
  obtain ⟨inBefore, inAfter⟩ := splits.no_colon
  have passed : ∀ c ∈ before.toList, decide (c ≠ ':') = true := by
    intro c member
    simp only [ne_eq, decide_eq_true_eq]
    rintro rfl
    exact inBefore member
  simp only [split?, splits.toList_eq, List.takeWhile_append_of_pos passed,
    List.dropWhile_append_of_pos passed]
  simp [inAfter]

theorem split?_eq_none (surplus : entry.toList.count ':' ≠ 1) : split? entry = none := by
  simp only [split?]
  cases dropped : entry.toList.dropWhile (· ≠ ':') with
  | nil => rfl
  | cons c rest =>
      by_cases again : ':' ∈ rest
      · simp [again]
      · -- Then the colon that ended the name is the only one.
        have whole := List.takeWhile_append_dropWhile (p := (· ≠ ':')) (l := entry.toList)
        have inName : ':' ∉ entry.toList.takeWhile (· ≠ ':') := by
          intro member
          simpa using List.mem_takeWhile_imp member
        have isColon : c = ':' := by
          have first := List.head?_dropWhile_not (· ≠ ':') entry.toList
          rw [dropped] at first
          simpa using first
        rw [dropped, isColon] at whole
        refine absurd ?_ surplus
        rw [← whole, List.count_append, List.count_cons_self, List.count_eq_zero.2 inName,
          List.count_eq_zero.2 again]

/-! ## One entry -/

theorem Denotes.parseEntry_eq {field : FieldName × TypeRef}
    (denotes : Denotes resolver entry field) : parseEntry resolver entry = .ok field := by
  obtain ⟨before, after, splits, named, resolved⟩ := denotes
  simp [parseEntry, splits.split?_eq, Name.parse, named, resolved]

theorem Refuses.parseEntry_eq {error : ValidationError}
    (refuses : Refuses resolver entry error) : parseEntry resolver entry = .error error := by
  cases refuses with
  | malformed surplus => simp [parseEntry, split?_eq_none surplus]
  | nameless splits blank => simp [parseEntry, splits.split?_eq, Name.parse, blank, Name.ofText?]
  | unresolved splits named resolved =>
      simp [parseEntry, splits.split?_eq, Name.parse, named, Name.ofText?, resolved]

/-- An entry stands for a field, or there is a reason why it does not. -/
theorem denotes_or_refuses (resolver : Resolver) (entry : String) :
    (∃ field, Denotes resolver entry field) ∨ ∃ error, Refuses resolver entry error := by
  by_cases one_colon : entry.toList.count ':' = 1
  · obtain ⟨before, after, splits⟩ := exists_splits one_colon
    by_cases named : Text.trimmed before = ""
    · exact .inr ⟨_, .nameless splits named⟩
    · cases resolved : resolver after with
      | error cause => exact .inr ⟨_, .unresolved splits named resolved⟩
      | ok type => exact .inl ⟨(⟨_, named⟩, type), before, after, splits, rfl, resolved⟩
  · exact .inr ⟨_, .malformed one_colon⟩

theorem parseEntry_eq_ok_iff {field : FieldName × TypeRef} :
    parseEntry resolver entry = .ok field ↔ Denotes resolver entry field := by
  refine ⟨fun parsed => ?_, Denotes.parseEntry_eq⟩
  rcases denotes_or_refuses resolver entry with ⟨other, denotes⟩ | ⟨error, refuses⟩
  · rw [denotes.parseEntry_eq] at parsed
    exact Except.ok.inj parsed ▸ denotes
  · rw [refuses.parseEntry_eq] at parsed
    cases parsed

theorem parseEntry_eq_error_iff {error : ValidationError} :
    parseEntry resolver entry = .error error ↔ Refuses resolver entry error := by
  refine ⟨fun parsed => ?_, Refuses.parseEntry_eq⟩
  rcases denotes_or_refuses resolver entry with ⟨field, denotes⟩ | ⟨other, refuses⟩
  · rw [denotes.parseEntry_eq] at parsed
    cases parsed
  · rw [refuses.parseEntry_eq] at parsed
    exact Except.error.inj parsed ▸ refuses

/-- The three demands that an entry for a field meets. -/
theorem exists_denotes_iff : (∃ field, Denotes resolver entry field) ↔
    ∃ before after type, Splits entry before after ∧ Text.trimmed before ≠ "" ∧
      resolver after = .ok type := by
  constructor
  · rintro ⟨field, before, after, splits, named, resolved⟩
    exact ⟨before, after, field.2, splits, named ▸ field.1.text_ne_empty, resolved⟩
  · rintro ⟨before, after, type, splits, named, resolved⟩
    exact ⟨(⟨_, named⟩, type), before, after, splits, rfl, resolved⟩

/-! ## Lists -/

theorem exists_forall₂_denotes_iff {entries : List String} :
    (∃ written, List.Forall₂ (Denotes resolver) entries written) ↔
      ∀ entry ∈ entries, ∃ field, Denotes resolver entry field := by
  induction entries with
  | nil => exact iff_of_true ⟨[], .nil⟩ (by simp)
  | cons entry rest ih =>
      rw [List.forall_mem_cons, ← ih]
      constructor
      · rintro ⟨written, denote⟩
        cases denote with
        | cons denotes others => exact ⟨⟨_, denotes⟩, _, others⟩
      · rintro ⟨⟨field, denotes⟩, written, others⟩
        exact ⟨field :: written, .cons denotes others⟩

theorem parse_eq_ok_iff {entries : List String} {fields : FieldMapping} :
    parse resolver entries = .ok fields ↔
      ∃ written, List.Forall₂ (Denotes resolver) entries written ∧
        FieldMapping.empty.writeAll (FieldMapping.overwrites written) = fields := by
  rw [parse, parseInto_eq_ok_iff]
  simp only [Resolves, parseEntry_eq_ok_iff]

/-- Entries are written one after the other: a name stands where it is listed first
and has the type that it is listed with last. -/
theorem writeAll_overwrites_eq_iff {written : List (FieldName × TypeRef)}
    {fields : FieldMapping} :
    FieldMapping.empty.writeAll (FieldMapping.overwrites written) = fields ↔
      fields.names = (written.map Prod.fst).eraseDups ∧
        ∀ name, fields.get? name = (written.reverse.find? (·.1.text = name)).map Prod.snd := by
  rw [← FieldMapping.ofList_eq_writeAll]
  constructor
  · rintro rfl
    exact ⟨FieldMapping.names_ofList written, FieldMapping.get?_ofList written⟩
  · rintro ⟨sameNames, sameTypes⟩
    apply FieldMapping.eq_of_names_of_get?
    · rw [FieldMapping.names_ofList, sameNames]
    · intro name
      rw [FieldMapping.get?_ofList, sameTypes]

theorem parseInto_eq_error_iff {fields : FieldMapping} {entries : List String}
    {error : ValidationError} :
    parseInto resolver fields entries = .error error ↔
      ∃ good bad rest, entries = good ++ bad :: rest ∧
        (∀ entry ∈ good, ∃ field, Denotes resolver entry field) ∧
        Refuses resolver bad error := by
  induction entries generalizing fields with
  | nil => simp [parseInto]
  | cons entry rest ih =>
      cases parsed : parseEntry resolver entry with
      | error other =>
          simp only [parseInto, parsed, Except.error.injEq]
          constructor
          · rintro rfl
            exact ⟨[], entry, rest, rfl, by simp, parseEntry_eq_error_iff.1 parsed⟩
          · rintro ⟨good, bad, later, split, denote, refuses⟩
            cases good with
            | nil =>
                obtain ⟨rfl, -⟩ := List.cons.inj split
                exact Except.error.inj (parsed.symm.trans refuses.parseEntry_eq)
            | cons first good =>
                obtain ⟨rfl, -⟩ := List.cons.inj split
                obtain ⟨field, denotes⟩ := denote entry List.mem_cons_self
                cases parsed.symm.trans denotes.parseEntry_eq
      | ok field =>
          simp only [parseInto, parsed, ih]
          constructor
          · rintro ⟨good, bad, later, rfl, denote, refuses⟩
            refine ⟨entry :: good, bad, later, rfl, ?_, refuses⟩
            exact List.forall_mem_cons.2 ⟨⟨field, parseEntry_eq_ok_iff.1 parsed⟩, denote⟩
          · rintro ⟨good, bad, later, split, denote, refuses⟩
            cases good with
            | nil =>
                obtain ⟨rfl, -⟩ := List.cons.inj split
                cases parsed.symm.trans refuses.parseEntry_eq
            | cons first good =>
                obtain ⟨rfl, rfl⟩ := List.cons.inj split
                exact ⟨good, bad, later, rfl, (List.forall_mem_cons.1 denote).2, refuses⟩

/-- Explicit field lists are read entry by entry.

* A list is accepted exactly if each of its entries has one colon, something that
  is not blank before it and a type after it.  Names that are listed again do no
  harm.
* The mapping has the names in the order in which they are listed first, each with
  the type that it is listed with last.
* Otherwise the first bad entry decides on the error: whether it has one colon is
  asked first, then whether it has a name, then whether it has a type. -/
theorem parse_meaning (resolver : Resolver) (entries : List String) :
    ((∃ fields, parse resolver entries = .ok fields) ↔
      ∀ entry ∈ entries, ∃ before after type, Splits entry before after ∧
        Text.trimmed before ≠ "" ∧ resolver after = .ok type) ∧
    (∀ fields, parse resolver entries = .ok fields ↔
      ∃ written, List.Forall₂ (Denotes resolver) entries written ∧
        fields.names = (written.map Prod.fst).eraseDups ∧
        ∀ name, fields.get? name =
          (written.reverse.find? (·.1.text = name)).map Prod.snd) ∧
    ∀ error, parse resolver entries = .error error ↔
      ∃ good bad rest, entries = good ++ bad :: rest ∧
        (∀ entry ∈ good, ∃ field, Denotes resolver entry field) ∧
        Refuses resolver bad error := by
  refine ⟨?accepts, ?writes, fun error => parseInto_eq_error_iff⟩
  case accepts =>
    simp only [← exists_denotes_iff, ← exists_forall₂_denotes_iff, parse_eq_ok_iff]
    constructor
    · rintro ⟨fields, written, denote, -⟩
      exact ⟨written, denote⟩
    · rintro ⟨written, denote⟩
      exact ⟨_, written, denote, rfl⟩
  case writes =>
    intro fields
    simp only [parse_eq_ok_iff, writeAll_overwrites_eq_iff]

/-- A name that is listed again, with blanks around it, takes its later type.  Of two
bad entries the first decides, and what it lacks first is a name. -/
theorem parse_meaning_sample :
    parse .parsing ["a:Int", " a :List< T >"] =
      .ok (.ofList [(⟨"a", by decide⟩, .mk "List" [.plain "T"])]) ∧
    parse .parsing ["a:Int", " :List<", "fooInt"] = .error (.emptyName .field) := by
  have plain : Denotes .parsing "a:Int" (⟨"a", by decide⟩, .plain "Int") :=
    ⟨"a", "Int", ⟨by decide, by decide⟩, by decide, by decide +kernel⟩
  have generic : Denotes .parsing " a :List< T >" (⟨"a", by decide⟩, .mk "List" [.plain "T"]) :=
    ⟨" a ", "List< T >", ⟨by decide, by decide⟩, by decide, by decide +kernel⟩
  have nameless : Splits " :List<" " " "List<" := ⟨by decide, by decide⟩
  constructor
  · refine ((parse_meaning .parsing ["a:Int", " a :List< T >"]).2.1 _).2
      ⟨_, .cons plain (.cons generic .nil), by decide, fun name => ?_⟩
    by_cases same : "a" = name <;>
      simp [same, FieldMapping.ofList, FieldMapping.set, FieldMapping.insert,
        FieldMapping.writeEntry, FieldMapping.get?, FieldMapping.empty]
  · exact ((parse_meaning .parsing ["a:Int", " :List<", "fooInt"]).2.2 _).2
      ⟨["a:Int"], " :List<", ["fooInt"], rfl, by simpa using ⟨_, _, plain⟩,
        .nameless nameless (by decide)⟩

end EventFields.FieldList

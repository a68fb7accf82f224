import EventFields.Proofs.TypeRef.Grammar
import EventFields.TypeRef.Printer

/-!
# Printing and reading types

A type survives printing and reading exactly if every name in it is one that a
reader could have found: not empty, without blanks around it and without
delimiters.  Every type that a reader returns is of this kind.

The printed form goes through the grammar: it is a text of the type, the blank
behind each comma being read with the name that follows.
-/

namespace EventFields.TypeRef

/-- A name that reading can give to a type. -/
structure IsTypeName (name : String) : Prop where
  ne_empty : name ≠ ""
  trimmed : Text.trimmed name = name
  undelimited : ∀ c ∈ name.toList, isDelimiter c = false

/-- What holds of a type if it holds of its arguments holds of every type. -/
@[induction_eliminator] theorem induct {motive : TypeRef → Prop}
    (mk : ∀ name arguments, (∀ argument ∈ arguments, motive argument) →
      motive (mk name arguments)) : (type : TypeRef) → motive type
  | .mk name arguments => mk name arguments fun argument _ => induct mk argument

mutual

/-- The names in a type: its own and those in its arguments. -/
def names : TypeRef → List String
  | mk name arguments => name :: namesOfAll arguments

/-- The names in a list of types. -/
def namesOfAll : List TypeRef → List String
  | [] => []
  | type :: types => type.names ++ namesOfAll types

end

/-- A type all of whose names are names that reading can give. -/
def WellFormed (type : TypeRef) : Prop :=
  ∀ name ∈ type.names, IsTypeName name

theorem namesOfAll_eq_flatMap (types : List TypeRef) :
    namesOfAll types = types.flatMap names := by
  induction types with
  | nil => rfl
  | cons type types ih => rw [namesOfAll, ih, List.flatMap_cons]

theorem wellFormed_mk {name : String} {arguments : List TypeRef} :
    (mk name arguments).WellFormed ↔
      IsTypeName name ∧ ∀ argument ∈ arguments, argument.WellFormed := by
  simp only [WellFormed]
  rw [names, namesOfAll_eq_flatMap]
  simp only [List.mem_cons, List.mem_flatMap, forall_eq_or_imp]
  constructor
  · rintro ⟨own, inner⟩
    exact ⟨own, fun argument member name inArgument => inner name ⟨argument, member, inArgument⟩⟩
  · rintro ⟨own, inner⟩
    exact ⟨own, fun name ⟨argument, member, inArgument⟩ => inner argument member name inArgument⟩

/-! ## Names -/

/-- What trimming makes of a run is a name. -/
theorem NamesType.isTypeName {run : List Char} (named : NamesType run) :
    IsTypeName (String.ofList (Text.trim run)) where
  ne_empty := by
    intro empty
    apply named.trim_ne_nil
    simpa using congrArg String.toList empty
  trimmed := by
    rw [Text.trimmed, String.toList_ofList, Text.trim_trim]
  undelimited c member := by
    rw [String.toList_ofList] at member
    exact named.undelimited c (Text.mem_of_mem_trim member)

/-- A name is a run that names itself. -/
theorem IsTypeName.namesType {name : String} (valid : IsTypeName name) :
    NamesType name.toList ∧ String.ofList (Text.trim name.toList) = name := by
  have self : String.ofList (Text.trim name.toList) = name := valid.trimmed
  refine ⟨⟨valid.undelimited, ?_⟩, self⟩
  intro empty
  rw [empty] at self
  exact valid.ne_empty self.symm

/-! ## Types that are read -/

mutual

theorem Spells.wellFormed {text : List Char} {type : TypeRef} (spells : Spells text type) :
    type.WellFormed := by
  cases spells with
  | plain named => exact wellFormed_mk.2 ⟨named.isTypeName, by simp⟩
  | generic named spellsInner =>
      exact wellFormed_mk.2 ⟨named.isTypeName, spellsInner.wellFormed⟩

theorem SpellsArguments.wellFormed {text : List Char} {types : List TypeRef}
    (spells : SpellsArguments text types) : ∀ type ∈ types, type.WellFormed := by
  cases spells with
  | last spellsFirst _ =>
      have first := spellsFirst.wellFormed
      simpa using first
  | more spellsFirst _ spellsOthers =>
      have first := spellsFirst.wellFormed
      have others := spellsOthers.wellFormed
      simpa using ⟨first, others⟩

end

/-- Every type that parsing returns is well-formed. -/
theorem wellFormed_of_parse {input : String} {type : TypeRef}
    (parsed : parse input = .ok type) : type.WellFormed := by
  obtain ⟨_, _, _, _, spells⟩ := parse_eq_ok_iff.1 parsed
  exact spells.wellFormed

/-! ## Types that are printed -/

/-- Blanks in front of a type are read with its name. -/
theorem Spells.blanks_append {front text : List Char} {type : TypeRef}
    (blank : Text.Blanks front) (spells : Spells text type) : Spells (front ++ text) type := by
  cases spells with
  | plain named =>
      rw [← Text.trim_blanks_append blank]
      exact .plain (named.blanks_append blank)
  | generic named spellsInner =>
      rw [← Text.trim_blanks_append blank, ← List.append_assoc]
      exact .generic (named.blanks_append blank) spellsInner

theorem SpellsArguments.blanks_append {front text : List Char} {types : List TypeRef}
    (blank : Text.Blanks front) (spells : SpellsArguments text types) :
    SpellsArguments (front ++ text) types := by
  cases spells with
  | last spellsFirst blank' =>
      rw [← List.append_assoc, ← List.append_assoc]
      exact .last (spellsFirst.blanks_append blank) blank'
  | more spellsFirst blank' spellsOthers =>
      rw [← List.append_assoc, ← List.append_assoc]
      exact .more (spellsFirst.blanks_append blank) blank' spellsOthers

/-- Printed arguments are a text of the arguments if each of them is one of its
own type. -/
theorem spellsArguments_chars {first : TypeRef} {rest : List TypeRef}
    (spells : ∀ type ∈ first :: rest, Spells type.chars type) :
    SpellsArguments (first.chars ++ followingChars rest) (first :: rest) := by
  induction rest generalizing first with
  | nil =>
      have last := SpellsArguments.last (spells first (by simp)) Text.blanks_nil
      simpa [followingChars] using last
  | cons next rest ih =>
      -- The printed blank behind the comma goes to the name of the next argument.
      have following := ih fun type member => spells type (List.mem_cons_of_mem _ member)
      have padded : SpellsArguments (' ' :: (next.chars ++ followingChars rest)) (next :: rest) :=
        following.blanks_append (show Text.Blanks [' '] by decide)
      have more := SpellsArguments.more (spells first (by simp)) Text.blanks_nil padded
      simpa [followingChars] using more

/-- The printed form of a well-formed type is a text of that type. -/
theorem spells_chars {type : TypeRef} (wellFormed : type.WellFormed) :
    Spells type.chars type := by
  induction type with
  | mk name arguments ih =>
      obtain ⟨valid, inner⟩ := wellFormed_mk.1 wellFormed
      obtain ⟨named, self⟩ := valid.namesType
      cases arguments with
      | nil =>
          have spells := Spells.plain named
          rw [self] at spells
          simpa [chars, argumentChars] using spells
      | cons first rest =>
          have spells := Spells.generic named
            (spellsArguments_chars fun type member => ih type member (inner type member))
          rw [self] at spells
          exact spells

/-- A well-formed type is read back from its printed form. -/
theorem parse_text {type : TypeRef} (wellFormed : type.WellFormed) :
    parse type.text = .ok type := by
  rw [parse_eq_ok_iff, text, String.toList_ofList]
  exact ⟨type.chars, [], by simp, Text.blanks_nil, spells_chars wellFormed⟩

/-- Printed forms tell well-formed types apart. -/
theorem text_injective {left right : TypeRef} (leftFormed : left.WellFormed)
    (rightFormed : right.WellFormed) (same : left.text = right.text) : left = right := by
  have read := parse_text leftFormed
  rw [same, parse_text rightFormed] at read
  exact (Except.ok.inj read).symm

/-- Reading undoes printing exactly on well-formed types, and all types that are
read are well-formed: printing and reading again changes none of them, and no
two of them print alike. -/
theorem parse_text_eq_ok_iff :
    (∀ type : TypeRef, parse type.text = .ok type ↔ type.WellFormed) ∧
    (∀ (input : String) (type : TypeRef), parse input = .ok type →
      type.WellFormed ∧ parse type.text = .ok type) ∧
    ∀ (input input' : String) (type type' : TypeRef), parse input = .ok type →
      parse input' = .ok type' → type.text = type'.text → type = type' := by
  refine ⟨fun type => ⟨wellFormed_of_parse, parse_text⟩, ?_, ?_⟩
  · intro input type parsed
    have wellFormed := wellFormed_of_parse parsed
    exact ⟨wellFormed, parse_text wellFormed⟩
  · intro input input' type type' parsed parsed' same
    exact text_injective (wellFormed_of_parse parsed) (wellFormed_of_parse parsed') same

/-- A text with surplus blanks and the printed form give the same type. -/
theorem parse_text_eq_ok_iff_nested :
    (mk "Map" [plain "K", mk "List" [plain "V"]]).WellFormed ∧
    parse "Map<K, List<V>>" = .ok (mk "Map" [plain "K", mk "List" [plain "V"]]) ∧
    ∀ type, parse " Map<K\u00a0,List< V > > " = .ok type → type.text = "Map<K, List<V>>" →
      type = mk "Map" [plain "K", mk "List" [plain "V"]] := by
  have parsed := parse_eq_ok_iff.2 spellsPadded_nested
  obtain ⟨wellFormed, read⟩ := parse_text_eq_ok_iff.2.1 _ _ parsed
  exact ⟨wellFormed, read, fun type surplus same =>
    parse_text_eq_ok_iff.2.2 _ _ type _ surplus read same⟩

end EventFields.TypeRef

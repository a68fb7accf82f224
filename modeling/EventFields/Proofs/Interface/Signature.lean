import EventFields.Proofs.Interface.WellFormed

/-!
# Signatures

A signature joins the printed types of its parameters with the separator that printing
puts between type arguments, too.  With a closing bracket behind them, the joined types
are a text of type arguments.  The grammar gives such a text at most one list, and so the
separators between parameters are told from those within a parameter.
-/

namespace EventFields

namespace TypeRef

/-! ## Texts of arguments -/

theorem Yields.value_eq {α : Type} {input rest rest' : List Char} {value value' : α}
    {result : Except Fault (Parsed α input)} (yields : Yields result value rest)
    (yields' : Yields result value' rest') : value = value' := by
  cases result with
  | error fault => exact yields.elim
  | ok parsed => exact yields.1.symm.trans yields'.1

/-- A text is that of at most one list of arguments. -/
theorem SpellsArguments.unique {text : List Char} {left right : List TypeRef}
    (spellsLeft : SpellsArguments text left) (spellsRight : SpellsArguments text right) :
    left = right := by
  have readLeft : ReadsArguments (text ++ []) left [] := spellsLeft.reads []
  have readRight : ReadsArguments (text ++ []) right [] := spellsRight.reads []
  exact Yields.value_eq readLeft readRight

/-- Between the brackets there is an argument. -/
theorem not_spellsArguments_close (types : List TypeRef) : ¬ SpellsArguments ['>'] types := by
  intro spells
  have read : ReadsArguments (['>'] ++ []) types [] := spells.reads []
  obtain ⟨first, left, readFirst, -⟩ := readsArguments_iff.1 read
  obtain ⟨named, -⟩ := reads_iff.1 readFirst
  exact named rfl

/-! ## Joined types -/

/-- Types as a signature lists them. -/
def listed (types : List TypeRef) : String :=
  Text.joined ", " (types.map text)

theorem toList_listed_cons (first : TypeRef) (rest : List TypeRef) :
    (listed (first :: rest)).toList ++ ['>'] = first.chars ++ followingChars rest := by
  induction rest generalizing first with
  | nil => simp [listed, text, followingChars]
  | cons next rest ih =>
      have later := ih next
      simp only [listed, List.map_cons, Text.joined, String.toList_append] at later ⊢
      rw [List.append_assoc, later]
      simp [text, followingChars]

/-- With a closing bracket behind them, the listed types are a text of arguments. -/
theorem spellsArguments_listed {first : TypeRef} {rest : List TypeRef}
    (wellFormed : ∀ type ∈ first :: rest, type.WellFormed) :
    SpellsArguments ((listed (first :: rest)).toList ++ ['>']) (first :: rest) := by
  rw [toList_listed_cons]
  apply spellsArguments_chars
  intro type member
  exact spells_chars (wellFormed type member)

theorem listed_ne_empty {first : TypeRef} {rest : List TypeRef}
    (wellFormed : ∀ type ∈ first :: rest, type.WellFormed) : listed (first :: rest) ≠ "" := by
  intro nothing
  have spells := spellsArguments_listed wellFormed
  rw [nothing] at spells
  exact not_spellsArguments_close _ spells

/-- Well-formed types are told from how they are listed. -/
theorem listed_injective {left right : List TypeRef}
    (leftFormed : ∀ type ∈ left, type.WellFormed) (rightFormed : ∀ type ∈ right, type.WellFormed)
    (same : listed left = listed right) : left = right := by
  cases left with
  | nil =>
      cases right with
      | nil => rfl
      | cons first rest => exact absurd same.symm (listed_ne_empty rightFormed)
  | cons first rest =>
      cases right with
      | nil => exact absurd same (listed_ne_empty leftFormed)
      | cons first' rest' =>
          have spellsLeft := spellsArguments_listed leftFormed
          have spellsRight := spellsArguments_listed rightFormed
          rw [same] at spellsLeft
          exact spellsLeft.unique spellsRight

end TypeRef

/-! ## Methods -/

namespace Method

/-- The types of all parameters have been read from texts. -/
def HasReadTypes (method : Method) : Prop :=
  ∀ parameter ∈ method.parameters, ∃ input, TypeRef.parse input = .ok parameter.type

/-- The types of the parameters, in order. -/
def parameterTypes (method : Method) : List TypeRef :=
  method.parameters.map (·.type)

theorem HasReadTypes.wellFormed {method : Method} (read : method.HasReadTypes) :
    ∀ type ∈ method.parameterTypes, type.WellFormed := by
  intro type member
  obtain ⟨parameter, among, rfl⟩ := List.mem_map.1 member
  obtain ⟨input, parsed⟩ := read parameter among
  exact TypeRef.wellFormed_of_parse parsed

theorem WellFormed.hasReadTypes {method : Method} (wellFormed : method.WellFormed) :
    method.HasReadTypes := by
  intro parameter among
  exact ⟨parameter.type.text, TypeRef.parse_text (wellFormed.parameters parameter among)⟩

theorem signature_eq (method : Method) :
    method.signature = method.name ++ "(" ++ TypeRef.listed method.parameterTypes ++ ")" := by
  rw [signature, TypeRef.listed, parameterTypes, List.map_map]
  rfl

/-- Signatures with the same name are the same exactly if the same types are listed. -/
theorem signature_eq_signature_iff {left right : Method} (sameName : left.name = right.name) :
    left.signature = right.signature ↔
      TypeRef.listed left.parameterTypes = TypeRef.listed right.parameterTypes := by
  rw [signature_eq, signature_eq, sameName, String.append_left_inj, String.append_right_inj]

end Method

/-! ## A sample

Two overloads with the same types but other names, and one with fewer parameters. -/

namespace Sample

def putting : Method where
  name := "put"
  parameters := [⟨"entries", .mk "Map" [.plain "K", .plain "V"]⟩, ⟨"limit", .plain "Int"⟩]

def renamed : Method where
  name := "put"
  parameters := [⟨"map", .mk "Map" [.plain "K", .plain "V"]⟩, ⟨"size", .plain "Int"⟩]
  returnType := .plain "Boolean"

def gathered : Method where
  name := "put"
  parameters := [⟨"entries", .mk "Map" [.plain "K", .plain "V", .plain "Int"]⟩]

theorem hasReadTypes_putting : putting.HasReadTypes := by
  simp only [Method.HasReadTypes, putting, List.forall_mem_cons]
  exact ⟨⟨"Map< K,V >", by decide +kernel⟩, ⟨" Int", by decide +kernel⟩, by simp⟩

theorem hasReadTypes_renamed : renamed.HasReadTypes := by
  simp only [Method.HasReadTypes, renamed, List.forall_mem_cons]
  exact ⟨⟨"Map<K, V>", by decide +kernel⟩, ⟨"Int ", by decide +kernel⟩, by simp⟩

theorem hasReadTypes_gathered : gathered.HasReadTypes := by
  simp only [Method.HasReadTypes, gathered, List.forall_mem_cons]
  exact ⟨⟨"Map<K, V, Int>", by decide +kernel⟩, by simp⟩

end Sample

/-- Signatures do not confuse overloads.

* Methods with one name, whose parameter types have been read from texts, have the same
  signature exactly if they have equally many parameters, with the same types in the same
  order.
* The methods of every model that has been read are of this kind. -/
theorem Method.signature_tells_overloads :
    (∀ left right : Method, left.name = right.name → left.HasReadTypes → right.HasReadTypes →
      (left.signature = right.signature ↔
        List.Forall₂ (fun parameter other => parameter.type = other.type)
          left.parameters right.parameters)) ∧
    ∀ model : SourceModel, model.Loaded → ∀ interface ∈ model.interfaces,
      ∀ method ∈ interface.methods, method.HasReadTypes := by
  constructor
  · intro left right sameName readLeft readRight
    have sameTypes : List.Forall₂ (fun parameter other : Parameter => parameter.type = other.type)
        left.parameters right.parameters ↔ left.parameterTypes = right.parameterTypes := by
      rw [parameterTypes, parameterTypes, ← List.forall₂_eq_eq_eq, List.forall₂_map_left_iff,
        List.forall₂_map_right_iff]
    rw [signature_eq_signature_iff sameName, sameTypes]
    constructor
    · intro same
      exact TypeRef.listed_injective readLeft.wellFormed readRight.wellFormed same
    · intro same
      rw [same]
  · intro model loaded interface member method among
    exact ((loaded.wellFormed interface member).methods method among).hasReadTypes

/-- Names of parameters do not show in a signature, and brackets do. -/
theorem Method.signature_tells_overloads_put :
    Sample.putting.signature = "put(Map<K, V>, Int)" ∧
    Sample.putting.signature = Sample.renamed.signature ∧
    List.Forall₂ (fun parameter other => parameter.type = other.type)
      Sample.putting.parameters Sample.renamed.parameters ∧
    Sample.putting.signature ≠ Sample.gathered.signature := by
  have same : Sample.putting.signature = Sample.renamed.signature := by decide +kernel
  obtain ⟨tells, -⟩ := signature_tells_overloads
  refine ⟨by decide +kernel, same, ?_, ?_⟩
  · exact (tells Sample.putting Sample.renamed rfl Sample.hasReadTypes_putting
      Sample.hasReadTypes_renamed).1 same
  · intro confused
    have sameTypes := (tells Sample.putting Sample.gathered rfl Sample.hasReadTypes_putting
      Sample.hasReadTypes_gathered).1 confused
    exact absurd sameTypes.length_eq (by decide)

end EventFields

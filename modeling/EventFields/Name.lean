/-!
# Names

Fields and interfaces are named by texts that are not empty. The two kinds of
names are different types, told apart by a parameter.
-/

namespace EventFields

/-- What a name is the name of. -/
inductive NameKind where
  | field
  | interface
  deriving Repr, DecidableEq

/-- How messages speak of a kind of name. -/
def NameKind.label : NameKind → String
  | .field => "field name"
  | .interface => "interface name"

/-- A name: any text but the empty one. -/
structure Name (kind : NameKind) where
  text : String
  text_ne_empty : text ≠ ""
  deriving Repr, DecidableEq

/-- The name of a field. -/
abbrev FieldName := Name .field

/-- The qualified name of an interface. -/
abbrev InterfaceName := Name .interface

namespace Name

variable {kind : NameKind}

/-- The name with a given text, unless the text is empty. -/
def ofText? (text : String) : Option (Name kind) :=
  if nonempty : text ≠ "" then some ⟨text, nonempty⟩ else none

@[ext] theorem ext {left right : Name kind} (same : left.text = right.text) :
    left = right := by
  cases left
  cases right
  cases same
  rfl

@[simp] theorem ofText?_text (name : Name kind) : ofText? name.text = some name := by
  simp [ofText?, name.text_ne_empty]

theorem ofText?_eq_none_iff {text : String} :
    (ofText? text : Option (Name kind)) = none ↔ text = "" := by
  simp [ofText?]

theorem ofText?_eq_some_iff {text : String} {name : Name kind} :
    ofText? text = some name ↔ name.text = text := by
  constructor
  · intro named
    unfold ofText? at named
    split at named
    · rw [← Option.some.inj named]
    · cases named
  · rintro rfl
    exact ofText?_text name

/-- Names are ordered by their texts, code point by code point. -/
instance : LT (Name kind) := ⟨fun left right => left.text < right.text⟩

instance (left right : Name kind) : Decidable (left < right) :=
  inferInstanceAs (Decidable (left.text < right.text))

end Name

end EventFields

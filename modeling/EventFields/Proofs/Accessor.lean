import EventFields.Accessor
import Mathlib.Data.List.Induction

/-!
# What accessors imply

A method is an accessor by its name and the number of its parameters.  The kinds
are tried in order, and to have the shape of a kind is not yet to imply a field: a
method without parameters is a getter whatever its name, but nothing may be left of
the name.  It is then not tried as a setter either.  The shapes alone therefore
decide the kind, and the stem alone decides whether there is a field.
-/

namespace EventFields

/-! ## The last segment of a name -/

/-- A text without dots is what follows the last dot of a text, or all of it. -/
def IsLastSegment (segment text : List Char) : Prop :=
  '.' ∉ segment ∧ (text = segment ∨ ∃ front, text = front ++ '.' :: segment)

theorem TypeRef.lastSegment_concat (text : List Char) (c : Char) :
    lastSegment (text ++ [c]) = if c = '.' then [] else lastSegment text ++ [c] := by
  by_cases dot : c = '.' <;> simp [lastSegment, dot]

theorem IsLastSegment.concat {segment text : List Char} {c : Char} (noDot : c ≠ '.')
    (isLast : IsLastSegment segment text) : IsLastSegment (segment ++ [c]) (text ++ [c]) := by
  obtain ⟨undotted, split⟩ := isLast
  constructor
  · simpa [undotted] using noDot.symm
  · cases split with
    | inl whole => exact .inl (by rw [whole])
    | inr after =>
        obtain ⟨front, split⟩ := after
        exact .inr ⟨front, by rw [split, List.append_assoc, List.cons_append]⟩

theorem isLastSegment_lastSegment (text : List Char) :
    IsLastSegment (TypeRef.lastSegment text) text := by
  induction text using List.reverseRecOn with
  | nil => exact ⟨List.not_mem_nil, .inl rfl⟩
  | append_singleton text c ih =>
      rw [TypeRef.lastSegment_concat]
      by_cases dot : c = '.'
      · rw [if_pos dot, dot]
        exact ⟨List.not_mem_nil, .inr ⟨text, rfl⟩⟩
      · rw [if_neg dot]
        exact ih.concat dot

theorem IsLastSegment.lastSegment_eq {segment text : List Char}
    (isLast : IsLastSegment segment text) : TypeRef.lastSegment text = segment := by
  obtain ⟨undotted, split⟩ := isLast
  induction segment using List.reverseRecOn generalizing text with
  | nil =>
      cases split with
      | inl whole =>
          rw [whole]
          rfl
      | inr after =>
          obtain ⟨front, rfl⟩ := after
          rw [TypeRef.lastSegment_concat, if_pos rfl]
  | append_singleton segment c ih =>
      rw [List.mem_append, List.mem_singleton, not_or] at undotted
      have noDot : c ≠ '.' := fun dot => undotted.2 dot.symm
      cases split with
      | inl whole =>
          rw [whole, TypeRef.lastSegment_concat, if_neg noDot, ih undotted.1 (.inl rfl)]
      | inr after =>
          obtain ⟨front, rfl⟩ := after
          rw [← List.cons_append, ← List.append_assoc, TypeRef.lastSegment_concat, if_neg noDot,
            ih undotted.1 (.inr ⟨front, rfl⟩)]

theorem TypeRef.simpleName_eq_iff {type : TypeRef} {segment : String} :
    type.simpleName = segment ↔ IsLastSegment segment.toList type.name.toList := by
  rw [simpleName]
  constructor
  · intro same
    rw [← same, String.toList_ofList]
    exact isLastSegment_lastSegment type.name.toList
  · intro isLast
    rw [isLast.lastSegment_eq, String.ofList_toList]

/-! ## Words in front of names -/

/-- A text starts with a word and goes on after it. -/
def ProperlyExtends (word text : String) : Prop :=
  ∃ first rest, text.toList = word.toList ++ first :: rest

/-- A method is named like a getter, or has no parameters. -/
def Method.HasGetterShape (method : Method) : Prop :=
  ProperlyExtends "get" method.name ∨ method.parameters = []

/-- A method is named like a setter and has exactly one parameter. -/
def Method.HasSetterShape (method : Method) : Prop :=
  ProperlyExtends "set" method.name ∧ method.parameters.length = 1

namespace Accessor

/-- The stem of a text for a kind of accessor: what follows the word of the kind, or the
whole text if it does not start with the word. -/
inductive HasStem (kind : Accessor) (text : String) : List Char → Prop where
  | stripped {stem : List Char} (starts : text.toList = kind.leading.toList ++ stem) :
      HasStem kind text stem
  | whole (differs : ∀ rest, text.toList ≠ kind.leading.toList ++ rest) :
      HasStem kind text text.toList

/-- The name that a text yields for a kind of accessor: its stem, of which there must be
something, with the first character in lower case. -/
def Names (kind : Accessor) (text : String) (name : FieldName) : Prop :=
  ∃ first rest, kind.HasStem text (first :: rest) ∧
    name.text.toList = Text.lowercase first :: rest

variable {kind : Accessor} {method : Method}

theorem dropFront?_eq_some_iff {front text rest : List Char} :
    dropFront? front text = some rest ↔ text = front ++ rest := by
  induction front generalizing text with
  | nil => simp [dropFront?]
  | cons expected front ih =>
      cases text with
      | nil => simp [dropFront?]
      | cons c text =>
          by_cases same : c = expected
          · simp [dropFront?, same, ih]
          · simp [dropFront?, same]

theorem extendsLeading_iff {text : String} :
    kind.extendsLeading text = true ↔ ProperlyExtends kind.leading text := by
  simp only [extendsLeading, ProperlyExtends, ← dropFront?_eq_some_iff]
  cases dropFront? kind.leading.toList text.toList with
  | none => simp
  | some stem => cases stem <;> simp

theorem stem_eq_iff {text : String} {stem : List Char} :
    kind.stem text = stem ↔ kind.HasStem text stem := by
  rw [Accessor.stem]
  cases dropped : dropFront? kind.leading.toList text.toList with
  | some rest =>
      have starts := dropFront?_eq_some_iff.1 dropped
      constructor
      · intro same
        exact .stripped (same ▸ starts)
      · intro has
        cases has with
        | stripped starts' => exact List.append_cancel_left (starts.symm.trans starts')
        | whole differs => exact absurd starts (differs rest)
  | none =>
      have differs : ∀ rest, text.toList ≠ kind.leading.toList ++ rest := by
        intro rest starts
        rw [dropFront?_eq_some_iff.2 starts] at dropped
        cases dropped
      constructor
      · intro same
        cases same
        exact .whole differs
      · intro has
        cases has with
        | stripped starts => exact absurd starts (differs _)
        | whole _ => rfl

/-- What properly extends the word of a kind has a stem. -/
theorem stem_ne_nil_of_properlyExtends (kind : Accessor) {text : String}
    (longer : ProperlyExtends kind.leading text) : kind.stem text ≠ [] := by
  obtain ⟨first, rest, starts⟩ := longer
  rw [stem_eq_iff.2 (.stripped starts)]
  exact List.cons_ne_nil first rest

/-- Nothing is left of the word itself, and of nothing. -/
theorem stem_eq_nil_iff {text : String} :
    kind.stem text = [] ↔ text = kind.leading ∨ text = "" := by
  rw [Accessor.stem]
  cases dropped : dropFront? kind.leading.toList text.toList with
  | some rest =>
      have starts := dropFront?_eq_some_iff.1 dropped
      have nonempty : text ≠ "" := by
        intro empty
        rw [empty] at starts
        cases kind <;> simp [leading] at starts
      rw [Option.getD_some, ← String.toList_inj, starts]
      simp [nonempty]
  | none =>
      have differs : text ≠ kind.leading := by
        intro same
        rw [same, dropFront?_eq_some_iff.2 (List.append_nil _).symm] at dropped
        cases dropped
      simp [differs]

/-! ## Shapes, names and types -/

theorem shapes_getter_iff : getter.shapes method = true ↔ method.HasGetterShape := by
  rw [shapes, Bool.or_eq_true, extendsLeading_iff, List.isEmpty_iff]
  rfl

theorem shapes_setter_iff : setter.shapes method = true ↔ method.HasSetterShape := by
  rw [shapes, Bool.and_eq_true, extendsLeading_iff, decide_eq_true_eq]
  rfl

theorem fieldName?_eq_none_iff :
    kind.fieldName? method = none ↔ kind.stem method.name = [] := by
  rw [fieldName?]
  cases kind.stem method.name with
  | nil => simp
  | cons first rest => simp [Name.ofText?_eq_none_iff]

theorem fieldName?_eq_some_iff {name : FieldName} :
    kind.fieldName? method = some name ↔ kind.Names method.name name := by
  simp only [fieldName?, Names, ← stem_eq_iff]
  cases kind.stem method.name with
  | nil => simp
  | cons first rest =>
      rw [Name.ofText?_eq_some_iff]
      constructor
      · intro same
        exact ⟨first, rest, rfl, by rw [same, String.toList_ofList]⟩
      · intro named
        obtain ⟨_, _, same, spelled⟩ := named
        cases same
        rw [← spelled, String.ofList_toList]

/-- No character is lost: the name is as long as the stem. -/
theorem Names.exists_stem {text : String} {name : FieldName} (named : kind.Names text name) :
    ∃ stem, kind.HasStem text stem ∧ name.text.length = stem.length := by
  obtain ⟨first, rest, stem, spelled⟩ := named
  refine ⟨first :: rest, stem, ?_⟩
  rw [← String.length_toList, spelled, List.length_cons, List.length_cons]

end Accessor

/-- A type is another one without a layer of `Optional`, if there is one: a last name segment
that says so, and exactly one argument. -/
inductive TypeRef.Unwraps (type : TypeRef) : TypeRef → Prop where
  | optional {inner : TypeRef} (named : IsLastSegment "Optional".toList type.name.toList)
      (only : type.arguments = [inner]) : Unwraps type inner
  | other (differs : ¬ (IsLastSegment "Optional".toList type.name.toList ∧
      type.arguments.length = 1)) : Unwraps type type

theorem Accessor.unwrapOptional_eq_iff {type result : TypeRef} :
    unwrapOptional type = result ↔ type.Unwraps result := by
  by_cases wrapped : IsLastSegment "Optional".toList type.name.toList ∧ type.arguments.length = 1
  · obtain ⟨inner, only⟩ := List.length_eq_one_iff.1 wrapped.2
    have unwrapped : unwrapOptional type = inner := by
      simp [unwrapOptional, only, TypeRef.simpleName_eq_iff.2 wrapped.1]
    rw [unwrapped]
    constructor
    · intro same
      exact .optional wrapped.1 (same ▸ only)
    · intro unwraps
      cases unwraps with
      | optional _ only' => exact List.singleton_inj.1 (only.symm.trans only')
      | other differs => exact absurd wrapped differs
  · have kept : unwrapOptional type = type := by
      rw [unwrapOptional]
      split
      · next inner only =>
        have other : type.simpleName ≠ "Optional" := fun named =>
          wrapped ⟨TypeRef.simpleName_eq_iff.1 named, by rw [only]; rfl⟩
        rw [if_neg other]
      · rfl
    rw [kept]
    constructor
    · intro same
      cases same
      exact .other wrapped
    · intro unwraps
      cases unwraps with
      | optional named only => exact absurd ⟨named, by rw [only]; rfl⟩ wrapped
      | other _ => rfl

/-! ## Fields -/

namespace Method

/-- What a method implies. The shape of a getter takes precedence. -/
inductive Implies (method : Method) : ImpliedField → Prop where
  | getter {name : FieldName} {type : TypeRef} (shape : method.HasGetterShape)
      (named : Accessor.getter.Names method.name name)
      (unwraps : method.returnType.Unwraps type) : Implies method ⟨.getter, name, type⟩
  | setter {name : FieldName} {parameter : Parameter} (noGetter : ¬ method.HasGetterShape)
      (shape : method.HasSetterShape) (only : method.parameters = [parameter])
      (named : Accessor.setter.Names method.name name) :
      Implies method ⟨.setter, name, parameter.type⟩

/-- How the field of a method is found: by its shape as a getter, else by its shape as a
setter, or not at all. -/
inductive Attempt (method : Method) : Prop where
  | getter (shape : method.HasGetterShape)
      (implied : method.impliedField? = (Accessor.getter.fieldName? method).map fun name =>
        ⟨.getter, name, Accessor.unwrapOptional method.returnType⟩)
  | setter (noGetter : ¬ method.HasGetterShape) (shape : method.HasSetterShape)
      (parameter : Parameter) (only : method.parameters = [parameter])
      (implied : method.impliedField? = (Accessor.setter.fieldName? method).map fun name =>
        ⟨.setter, name, parameter.type⟩)
  | neither (noGetter : ¬ method.HasGetterShape) (noSetter : ¬ method.HasSetterShape)
      (implied : method.impliedField? = none)

theorem attempt (method : Method) : method.Attempt := by
  by_cases getter : Accessor.getter.shapes method = true
  · apply Attempt.getter (Accessor.shapes_getter_iff.1 getter)
    simp only [impliedField?, Accessor.all, List.find?_cons, getter, Accessor.fieldType?]
    cases Accessor.getter.fieldName? method <;> rfl
  · have noGetter : ¬ method.HasGetterShape := mt Accessor.shapes_getter_iff.2 getter
    by_cases setter : Accessor.setter.shapes method = true
    · have shape := Accessor.shapes_setter_iff.1 setter
      obtain ⟨parameter, only⟩ := List.length_eq_one_iff.1 shape.2
      apply Attempt.setter noGetter shape parameter only
      simp only [impliedField?, Accessor.all, List.find?_cons, getter, setter,
        Accessor.fieldType?, only]
      cases Accessor.setter.fieldName? method <;> rfl
    · apply Attempt.neither noGetter (mt Accessor.shapes_setter_iff.2 setter)
      simp [impliedField?, Accessor.all, getter, setter]

variable {method : Method}

/-- A method implies a field exactly if the rules say so. -/
theorem impliedField?_eq_some_iff {field : ImpliedField} :
    method.impliedField? = some field ↔ method.Implies field := by
  cases method.attempt with
  | getter shape implied =>
      rw [implied, Option.map_eq_some_iff]
      constructor
      · intro found
        obtain ⟨name, named, rfl⟩ := found
        exact .getter shape (Accessor.fieldName?_eq_some_iff.1 named)
          (Accessor.unwrapOptional_eq_iff.1 rfl)
      · intro implies
        cases implies with
        | getter _ named unwraps =>
            exact ⟨_, Accessor.fieldName?_eq_some_iff.2 named,
              by rw [Accessor.unwrapOptional_eq_iff.2 unwraps]⟩
        | setter noGetter _ _ _ => exact absurd shape noGetter
  | setter noGetter shape parameter only implied =>
      rw [implied, Option.map_eq_some_iff]
      constructor
      · intro found
        obtain ⟨name, named, rfl⟩ := found
        exact .setter noGetter shape only (Accessor.fieldName?_eq_some_iff.1 named)
      · intro implies
        cases implies with
        | getter shape _ _ => exact absurd shape noGetter
        | setter _ _ only' named =>
            cases List.singleton_inj.1 (only.symm.trans only')
            exact ⟨_, Accessor.fieldName?_eq_some_iff.2 named, rfl⟩
  | neither noGetter noSetter implied =>
      rw [implied]
      constructor
      · intro found
        cases found
      · intro implies
        cases implies with
        | getter shape _ _ => exact absurd shape noGetter
        | setter _ shape _ _ => exact absurd shape noSetter

/-- A method implies nothing if no kind has its shape, or if it has no parameters and
nothing is left of its name for a getter. -/
theorem impliedField?_eq_none_iff :
    method.impliedField? = none ↔
      (method.parameters = [] ∧ (method.name = "" ∨ method.name = "get")) ∨
      (method.parameters ≠ [] ∧ ¬ ProperlyExtends "get" method.name ∧
        ¬ (ProperlyExtends "set" method.name ∧ method.parameters.length = 1)) := by
  cases method.attempt with
  | getter shape implied =>
      rw [implied, Option.map_eq_none_iff, Accessor.fieldName?_eq_none_iff]
      constructor
      · intro nothing
        have bare : ¬ ProperlyExtends "get" method.name := fun longer =>
          Accessor.getter.stem_ne_nil_of_properlyExtends longer nothing
        exact .inl ⟨shape.resolve_left bare, (Accessor.stem_eq_nil_iff.1 nothing).symm⟩
      · intro cause
        cases cause with
        | inl unnamed => exact Accessor.stem_eq_nil_iff.2 unnamed.2.symm
        | inr unshaped => exact absurd shape (not_or.2 ⟨unshaped.2.1, unshaped.1⟩)
  | setter noGetter shape parameter only implied =>
      have stem := Accessor.setter.stem_ne_nil_of_properlyExtends shape.1
      rw [implied, Option.map_eq_none_iff, Accessor.fieldName?_eq_none_iff]
      constructor
      · intro nothing
        exact absurd nothing stem
      · intro cause
        cases cause with
        | inl unnamed => exact absurd (.inr unnamed.1) noGetter
        | inr unshaped => exact absurd shape unshaped.2.2
  | neither noGetter noSetter implied =>
      have unshaped := not_or.1 noGetter
      simp only [implied, true_iff]
      exact .inr ⟨unshaped.2, unshaped.1, noSetter⟩

theorem Implies.named {field : ImpliedField} (implies : method.Implies field) :
    field.kind.Names method.name field.name := by
  cases implies with
  | getter _ named _ => exact named
  | setter _ _ _ named => exact named

/-- Which field a method implies, and when it implies none.

* It implies none if it has no parameters and nothing is left of its name for a getter,
  or if it has parameters and neither shape.
* It implies a field if it has the shape of a getter, which takes precedence, or else
  that of a setter: the name is the stem for that kind with its first character in
  lower case, and the type is what a getter returns, without a layer of `Optional`,
  or what a setter is given.
* The name is never empty and has as many characters as the stem. -/
theorem implied_meaning (method : Method) :
    (method.impliedField? = none ↔
      (method.parameters = [] ∧ (method.name = "" ∨ method.name = "get")) ∨
      (method.parameters ≠ [] ∧ ¬ ProperlyExtends "get" method.name ∧
        ¬ (ProperlyExtends "set" method.name ∧ method.parameters.length = 1))) ∧
    (∀ field, method.impliedField? = some field ↔ method.Implies field) ∧
    ∀ field, method.impliedField? = some field →
      ∃ stem, field.kind.HasStem method.name stem ∧ field.name.text ≠ "" ∧
        field.name.text.length = stem.length := by
  refine ⟨impliedField?_eq_none_iff, fun _ => impliedField?_eq_some_iff, ?_⟩
  intro field implied
  obtain ⟨stem, has, sameLength⟩ := (impliedField?_eq_some_iff.1 implied).named.exists_stem
  exact ⟨stem, has, field.name.text_ne_empty, sameLength⟩

/-- A getter whose stem starts with a letter that is longer in lower case. -/
theorem implied_meaning_dotted :
    let method : Method :=
      { name := "getİd", returnType := .mk "java.util.Optional" [.plain "long"] }
    method.impliedField? = some ⟨.getter, ⟨"id", by decide⟩, .plain "long"⟩ ∧
    ∃ stem, Accessor.getter.HasStem "getİd" stem ∧ "id".length = stem.length := by
  intro method
  have implied :
      method.impliedField? = some ⟨.getter, ⟨"id", by decide⟩, .plain "long"⟩ := by
    decide +kernel
  obtain ⟨-, -, keeps⟩ := method.implied_meaning
  obtain ⟨stem, has, -, sameLength⟩ := keeps _ implied
  exact ⟨implied, stem, has, sameLength⟩

end Method

end EventFields

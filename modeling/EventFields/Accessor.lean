import EventFields.Interface.Basic
import EventFields.Text.Lowercase

/-!
# Accessors

Getters and setters imply a field. The kinds are tried in order, and the first
one whose shape a method has decides, even if it then yields no field name.
-/

namespace EventFields

/-- A kind of accessor method. -/
inductive Accessor where
  | getter
  | setter
  deriving Repr, DecidableEq

namespace Accessor

/-- The kinds, in the order in which they are tried. -/
def all : List Accessor := [getter, setter]

/-- What names of this kind start with. -/
def leading : Accessor → String
  | getter => "get"
  | setter => "set"

/-- The name of the kind. -/
def label : Accessor → String
  | getter => "getter"
  | setter => "setter"

/-- What follows `front` in a text that starts with it. -/
def dropFront? : (front text : List Char) → Option (List Char)
  | [], text => some text
  | _ :: _, [] => none
  | expected :: front, c :: text => if c = expected then dropFront? front text else none

/-- Whether a name goes on after the leading word of the kind. -/
def extendsLeading (kind : Accessor) (name : String) : Bool :=
  match dropFront? kind.leading.toList name.toList with
  | some (_ :: _) => true
  | _ => false

/-- Whether a method has the shape of the kind. A method without parameters is
a getter, whatever its name. -/
def shapes (kind : Accessor) (method : Method) : Bool :=
  match kind with
  | getter => kind.extendsLeading method.name || method.parameters.isEmpty
  | setter => kind.extendsLeading method.name && method.parameters.length = 1

/-- The name without the leading word of the kind, if it starts with it. -/
def stem (kind : Accessor) (name : String) : List Char :=
  (dropFront? kind.leading.toList name.toList).getD name.toList

/-- The field name that a method name implies: its stem with the first letter
in lower case. There is none if the stem is empty. -/
def fieldName? (kind : Accessor) (method : Method) : Option FieldName :=
  match kind.stem method.name with
  | [] => none
  | first :: rest => Name.ofText? (String.ofList (Text.lowercase first :: rest))

/-- A type with one layer of `Optional` removed. -/
def unwrapOptional (type : TypeRef) : TypeRef :=
  match type.arguments with
  | [inner] => if type.simpleName = "Optional" then inner else type
  | _ => type

/-- The field type that a method implies: what a getter returns and what a
setter is given. -/
def fieldType? (kind : Accessor) (method : Method) : Option TypeRef :=
  match kind with
  | getter => some (unwrapOptional method.returnType)
  | setter => method.parameters.head?.map (·.type)

end Accessor

/-- A field that an accessor implies. -/
structure ImpliedField where
  kind : Accessor
  name : FieldName
  type : TypeRef
  deriving DecidableEq

/-- The field that a method implies, if it is an accessor. -/
def Method.impliedField? (method : Method) : Option ImpliedField :=
  match Accessor.all.find? (·.shapes method) with
  | none => none
  | some kind =>
      match kind.fieldName? method, kind.fieldType? method with
      | some name, some type => some ⟨kind, name, type⟩
      | _, _ => none

end EventFields

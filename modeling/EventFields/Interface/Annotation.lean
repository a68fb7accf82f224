import EventFields.Json.Basic
import EventFields.SortedMap

/-!
# Annotations

An annotation has a type and named elements. Only elements that hold a text or
a list of texts are ever read; all other values are carried along.
-/

namespace EventFields

/-- The value of an annotation element. -/
inductive ElementValue where
  | single (text : String)
  | list (texts : List String)
  | other (value : Json)
  deriving Repr, DecidableEq

/-- The value as a list of texts, a single text being a list of one. -/
def ElementValue.texts? : ElementValue → Option (List String)
  | single text => some [text]
  | list texts => some texts
  | other _ => none

/-- An annotation of an interface or a method. -/
structure Annotation where
  /-- The qualified name of the annotation's type. -/
  typeName : String
  /-- The elements, in the order of their names. -/
  elements : SortedMap String ElementValue
  deriving DecidableEq

namespace Annotation

/-- An annotation without elements. -/
def bare (typeName : String) : Annotation :=
  ⟨typeName, .empty⟩

/-- The annotation with one element written. -/
def withElement (tag : Annotation) (name : String) (value : ElementValue) :
    Annotation :=
  { tag with elements := tag.elements.insert name value }

/-- The value of the element with a given name. -/
def element? (tag : Annotation) (name : String) : Option ElementValue :=
  tag.elements.get? name

end Annotation

end EventFields

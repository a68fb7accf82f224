import EventFields.Interface.Annotation
import EventFields.Text.Join
import EventFields.TypeRef.Printer

/-!
# Interfaces

An event interface declares methods; interfaces and methods carry annotations.
A model is a list of interfaces.
-/

namespace EventFields

/-- A declared parameter of a method. -/
structure Parameter where
  name : String
  type : TypeRef
  deriving DecidableEq

/-- A method of an interface. -/
structure Method where
  name : String
  parameters : List Parameter := []
  returnType : TypeRef := .void
  annotations : List Annotation := []
  deriving DecidableEq

namespace Method

/-- The method with one more parameter. -/
def withParameter (method : Method) (name : String) (type : TypeRef) : Method :=
  { method with parameters := method.parameters ++ [⟨name, type⟩] }

/-- The method with one more annotation. -/
def annotate (method : Method) (tag : Annotation) : Method :=
  { method with annotations := method.annotations ++ [tag] }

/-- The name of the method with the types of its parameters in parentheses. -/
def signature (method : Method) : String :=
  method.name ++ "(" ++ Text.joined ", " (method.parameters.map (·.type.text)) ++ ")"

end Method

/-- An interface. -/
structure Interface where
  qualifiedName : InterfaceName
  /-- The file that declares the interface, if it is known. -/
  sourceFile : Option String := none
  annotations : List Annotation := []
  methods : List Method := []
  deriving DecidableEq

namespace Interface

/-- The interface with one more method. -/
def withMethod (interface : Interface) (method : Method) : Interface :=
  { interface with methods := interface.methods ++ [method] }

/-- The interface with one more annotation. -/
def annotate (interface : Interface) (tag : Annotation) : Interface :=
  { interface with annotations := interface.annotations ++ [tag] }

/-- The interface with a source file. -/
def withSourceFile (interface : Interface) (path : String) : Interface :=
  { interface with sourceFile := some path }

end Interface

/-- All interfaces of one analysis. -/
structure SourceModel where
  interfaces : List Interface := []
  deriving DecidableEq

end EventFields

import EventFields.Interface.Basic
import EventFields.Json.Reader

/-!
# Interfaces as JSON

Every record is written as an object with its fields in a fixed order. Empty
annotation lists, empty element maps and unknown source files are left out.
-/

namespace EventFields

open Json (Reader Schema Slot)

/-- The texts among values, if all of them are texts. -/
def ElementValue.allTexts? : List Json → Option (List String)
  | [] => some []
  | .str text :: rest => (allTexts? rest).map (text :: ·)
  | _ :: _ => none

/-- The element value that a JSON value stands for. -/
def ElementValue.ofJson : Json → ElementValue
  | .str text => single text
  | .arr values =>
      match allTexts? values with
      | some texts => list texts
      | none => other (.arr values)
  | value => other value

/-- An element value as JSON. -/
def ElementValue.toJson : ElementValue → Json
  | single text => .str text
  | list texts => .arr (texts.map .str)
  | other value => value

/-- Reads an element value. Every value is one, if it can be read at all. -/
def ElementValue.reader : Reader ElementValue := fun draft =>
  match draft.value? with
  | some value => .ok (ofJson value.distinct)
  | none => .error .malformed

namespace Annotation

/-- The elements as JSON, in the order of their names. -/
def elementsToJson (elements : SortedMap String ElementValue) : Json :=
  .obj (elements.entries.map fun entry => (entry.1, entry.2.toJson))

/-- An annotation as JSON. -/
def toJson (tag : Annotation) : Json :=
  .obj (("type_name", .str tag.typeName) ::
    if tag.elements.entries.isEmpty then []
    else [("elements", elementsToJson tag.elements)])

/-- What is known of an annotation while it is read. -/
structure Parts where
  typeName? : Option String := none
  elements : SortedMap String ElementValue := .empty

/-- Reads an element into those read before. -/
def writeElement (elements : SortedMap String ElementValue) (name : String)
    (draft : Json.Draft) : Except Json.ReadError (SortedMap String ElementValue) :=
  match ElementValue.reader draft with
  | .ok value => .ok (elements.insert name value)
  | .error error => .error error

/-- How an annotation is read. -/
def schema : Schema Parts Annotation where
  title := "Annotation"
  slots := [
    .of "type_name" (.text "a string") fun parts text => { parts with typeName? := some text },
    .of "elements" (.map .empty writeElement) fun parts elements => { parts with elements }]
  start := {}
  finish := fun parts =>
    match parts.typeName? with
    | none => .error "type_name"
    | some typeName => .ok ⟨typeName, parts.elements⟩

end Annotation

namespace Parameter

/-- A parameter as JSON. -/
def toJson (parameter : Parameter) : Json :=
  .obj [("name", .str parameter.name), ("type", .str parameter.type.text)]

/-- What is known of a parameter while it is read. -/
structure Parts where
  name? : Option String := none
  type? : Option TypeRef := none

/-- How a parameter is read. -/
def schema : Schema Parts Parameter where
  title := "Parameter"
  slots := [
    .of "name" (.text "a string") fun parts text => { parts with name? := some text },
    .of "type" .type fun parts type => { parts with type? := some type }]
  start := {}
  finish := fun parts =>
    match parts.name?, parts.type? with
    | none, _ => .error "name"
    | some _, none => .error "type"
    | some name, some type => .ok ⟨name, type⟩

end Parameter

/-- Annotations as a member of an object, left out if there are none. -/
def annotationsMember (annotations : List Annotation) : List (String × Json) :=
  if annotations.isEmpty then []
  else [("annotations", .arr (annotations.map (·.toJson)))]

namespace Method

/-- A method as JSON. -/
def toJson (method : Method) : Json :=
  .obj ([("name", .str method.name),
    ("parameters", .arr (method.parameters.map (·.toJson))),
    ("return_type", .str method.returnType.text)] ++ annotationsMember method.annotations)

/-- What is known of a method while it is read. -/
structure Parts where
  name? : Option String := none
  parameters : List Parameter := []
  returnType : TypeRef := .void
  annotations : List Annotation := []

/-- How a method is read. -/
def schema : Schema Parts Method where
  title := "Method"
  slots := [
    .of "name" (.text "a string") fun parts text => { parts with name? := some text },
    .of "parameters" (.list Parameter.schema.reader) fun parts parameters =>
      { parts with parameters },
    .of "return_type" .type fun parts returnType => { parts with returnType },
    .of "annotations" (.list Annotation.schema.reader) fun parts annotations =>
      { parts with annotations }]
  start := {}
  finish := fun parts =>
    match parts.name? with
    | none => .error "name"
    | some name => .ok ⟨name, parts.parameters, parts.returnType, parts.annotations⟩

end Method

namespace Interface

/-- An interface as JSON. -/
def toJson (interface : Interface) : Json :=
  let sourceFile :=
    match interface.sourceFile with
    | some path => [("source_file", .str path)]
    | none => []
  .obj ([("qualified_name", .str interface.qualifiedName.text)] ++ sourceFile ++
    annotationsMember interface.annotations ++
    [("methods", .arr (interface.methods.map (·.toJson)))])

/-- What is known of an interface while it is read. -/
structure Parts where
  qualifiedName? : Option InterfaceName := none
  sourceFile : Option String := none
  annotations : List Annotation := []
  methods : List Method := []

/-- How an interface is read. -/
def schema : Schema Parts Interface where
  title := "Interface"
  slots := [
    .of "qualified_name" .name fun parts name => { parts with qualifiedName? := some name },
    .of "source_file" (.optional (.text "path string")) fun parts sourceFile =>
      { parts with sourceFile },
    .of "annotations" (.list Annotation.schema.reader) fun parts annotations =>
      { parts with annotations },
    .of "methods" (.list Method.schema.reader) fun parts methods => { parts with methods }]
  start := {}
  finish := fun parts =>
    match parts.qualifiedName? with
    | none => .error "qualified_name"
    | some name => .ok ⟨name, parts.sourceFile, parts.annotations, parts.methods⟩

end Interface

namespace SourceModel

/-- A model as JSON. -/
def toJson (model : SourceModel) : Json :=
  .obj [("interfaces", .arr (model.interfaces.map (·.toJson)))]

/-- How a model is read. -/
def schema : Schema SourceModel SourceModel where
  title := "SourceModel"
  slots := [
    .of "interfaces" (.list Interface.schema.reader) fun _ interfaces => ⟨interfaces⟩]
  start := {}
  finish := .ok

/-- The model that a JSON value stands for. -/
def ofJson (value : Json) : Except Json.ReadError SourceModel :=
  Json.readWith schema.reader value

/-- The model that a JSON text stands for. -/
def ofText (text : String) : Except Json.ReadError SourceModel :=
  Json.readText schema.reader text

end SourceModel

end EventFields

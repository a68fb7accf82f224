import EventFields.Catalog
import EventFields.Json.Reader
import EventFields.TypeRef.Printer

/-!
# Catalogs as JSON

A mapping is an object from names to types in the order of its fields; a
catalog is the array of its events.
-/

namespace EventFields

open Json (Reader Schema Slot)

namespace FieldMapping

/-- A mapping as JSON. -/
def toJson (fields : FieldMapping) : Json :=
  .obj (fields.entries.map fun entry => (entry.1.text, .str entry.2.text))

/-- Reads a field into those read before. -/
def writeField (fields : FieldMapping) (key : String) (draft : Json.Draft) :
    Except Json.ReadError FieldMapping :=
  match Name.ofText? key with
  | none => .error (.data (.emptyName .field))
  | some name =>
      match Json.Reader.type draft with
      | .ok type => .ok (fields.set name type)
      | .error error => .error error

/-- Reads a mapping. -/
def reader : Reader FieldMapping :=
  .map .empty writeField

end FieldMapping

namespace Event

/-- An event as JSON. -/
def toJson (event : Event) : Json :=
  .obj [("name", .str event.name.text), ("fields", event.fields.toJson)]

/-- What is known of an event while it is read. -/
structure Parts where
  name? : Option InterfaceName := none
  fields? : Option FieldMapping := none

/-- How an event is read. -/
def schema : Schema Parts Event where
  title := "EventDescriptor"
  slots := [
    .of "name" .name fun parts name => { parts with name? := some name },
    .of "fields" FieldMapping.reader fun parts fields => { parts with fields? := some fields }]
  start := {}
  finish := fun parts =>
    match parts.name?, parts.fields? with
    | none, _ => .error "name"
    | some _, none => .error "fields"
    | some name, some fields => .ok ⟨name, fields⟩

end Event

namespace Catalog

/-- A catalog as JSON. -/
def toJson (catalog : Catalog) : Json :=
  .arr (catalog.events.map (·.toJson))

/-- Reads a catalog. Events are taken in the order in which they are written. -/
def reader : Reader Catalog := fun draft =>
  match Json.Reader.list Event.schema.reader draft with
  | .ok events => .ok ⟨events⟩
  | .error error => .error error

/-- The catalog that a JSON value stands for. -/
def ofJson (value : Json) : Except Json.ReadError Catalog :=
  Json.readWith reader value

end Catalog

end EventFields

import EventFields.FieldMapping
import EventFields.Interface.Annotation
import EventFields.Text.Blank
import EventFields.TypeRef.Parser

/-!
# Explicit field lists

An override annotation lists fields as entries `name:type` in its `value`
element. Every entry has exactly one colon. A name that is listed again takes
the later type and keeps its place.
-/

namespace EventFields

/-- How the text of a type is turned into a type. -/
abbrev Resolver := String → Except TypeError TypeRef

namespace Resolver

/-- Takes a text for the type that it spells. -/
def parsing : Resolver := TypeRef.parse

/-- Replaces the texts that stand in a table before they are parsed. -/
def replacing (table : List (String × String)) : Resolver := fun text =>
  TypeRef.parse ((table.find? fun entry => entry.1 = text).map Prod.snd |>.getD text)

end Resolver

/-- Why a name or an explicit field list is not valid. -/
inductive ValidationError where
  /-- A name is empty. -/
  | emptyName (kind : NameKind)
  /-- An entry does not consist of a name and a type with one colon between them. -/
  | malformedEntry (entry : String)
  /-- An override annotation has no `value` element. -/
  | missingValue (typeName : String)
  /-- The `value` element is neither a text nor a list of texts. -/
  | nonTextValue (typeName : String)
  /-- The type of an entry is not a type. -/
  | unresolvedType (entry : String) (cause : TypeError)
  deriving Repr, DecidableEq

namespace ValidationError

/-- The wording of an error. -/
def message : ValidationError → String
  | emptyName kind => kind.label ++ " cannot be empty"
  | malformedEntry entry =>
      "malformed explicit field entry `" ++ entry ++
        "`: expected a name and type separated by ':'"
  | missingValue typeName =>
      "override annotation " ++ typeName ++ " has no `value` element"
  | nonTextValue typeName =>
      "override annotation " ++ typeName ++ " has a non-string `value` element"
  | unresolvedType entry _ => "cannot resolve type in explicit field entry `" ++ entry ++ "`"

end ValidationError

/-- The name with a given text, or the error that it is empty. -/
def Name.parse {kind : NameKind} (text : String) : Except ValidationError (Name kind) :=
  match Name.ofText? text with
  | some name => .ok name
  | none => .error (.emptyName kind)

namespace FieldList

/-- The parts of an entry before and after its colon, if it has exactly one. -/
def split? (entry : String) : Option (String × String) :=
  let name := entry.toList.takeWhile (· ≠ ':')
  match entry.toList.dropWhile (· ≠ ':') with
  | [] => none
  | _ :: type =>
      if type.contains ':' then none else some (String.ofList name, String.ofList type)

/-- Reads one entry. -/
def parseEntry (resolver : Resolver) (entry : String) :
    Except ValidationError (FieldName × TypeRef) :=
  match split? entry with
  | none => .error (.malformedEntry entry)
  | some (nameText, typeText) =>
      match Name.parse (Text.trimmed nameText) with
      | .error error => .error error
      | .ok name =>
          match resolver typeText with
          | .error cause => .error (.unresolvedType entry cause)
          | .ok type => .ok (name, type)

/-- Reads entries from the first to the last and writes them into a mapping. -/
def parseInto (resolver : Resolver) (fields : FieldMapping) :
    List String → Except ValidationError FieldMapping
  | [] => .ok fields
  | entry :: rest =>
      match parseEntry resolver entry with
      | .error error => .error error
      | .ok (name, type) => parseInto resolver (fields.set name type) rest

/-- Reads an explicit field list. The first bad entry decides the error. -/
def parse (resolver : Resolver) (entries : List String) :
    Except ValidationError FieldMapping :=
  parseInto resolver .empty entries

/-- The annotation element that holds the entries. -/
def valueElement : String := "value"

/-- Reads the explicit field list of an override annotation. -/
def carriedBy (resolver : Resolver) (tag : Annotation) :
    Except ValidationError FieldMapping :=
  match tag.element? valueElement with
  | none => .error (.missingValue tag.typeName)
  | some value =>
      match value.texts? with
      | none => .error (.nonTextValue tag.typeName)
      | some entries => parse resolver entries

end FieldList

end EventFields

import EventFields.Json.Draft
import EventFields.Number.Decimal
import EventFields.Text.Quoted
import EventFields.TypeRef.Parser
import EventFields.Name

/-!
# Reading records from JSON

Readers go through a draft from left to right and stop at the first problem. A
record can be written as an object, whose unknown keys are skipped, or as an
array of its fields in order, in which fields at the end that have a default
can be left out.
-/

namespace EventFields.Json

/-- Why a value is not what a reader expects. -/
inductive DataError where
  | invalidType (found expected : String)
  | invalidLength (length : Nat) (expected : String)
  | missingField (name : String)
  | duplicateField (name : String)
  /-- A text is not a name because it is empty. -/
  | emptyName (kind : NameKind)
  /-- A text is not a type. -/
  | badType (cause : TypeError)
  deriving Repr, DecidableEq

namespace DataError

/-- The wording of an error. -/
def message : DataError → String
  | invalidType found expected => "invalid type: " ++ found ++ ", expected " ++ expected
  | invalidLength length expected =>
      "invalid length " ++ toString length ++ ", expected " ++ expected
  | missingField name => "missing field `" ++ name ++ "`"
  | duplicateField name => "duplicate field `" ++ name ++ "`"
  | emptyName kind => kind.label ++ " cannot be empty"
  | badType cause => cause.message

end DataError

/-- Why a reader stops. -/
inductive ReadError where
  /-- The text is not JSON here. -/
  | malformed
  /-- The value is not what the reader expects. -/
  | data (error : DataError)
  deriving Repr, DecidableEq

/-- How messages speak of a draft, unless it cannot be read. -/
def Draft.found? : Draft → Option String
  | null => some "null"
  | bool value => some ("boolean `" ++ (if value then "true" else "false") ++ "`")
  | int value => some ("integer `" ++ toString value ++ "`")
  | float bits => some ("floating point `" ++ (Decimal.shortest bits).text ++ "`")
  | str text => some ("string " ++ Text.quoted text)
  | arr _ _ => some "sequence"
  | obj _ _ => some "map"
  | unreadable _ => none

/-- A reader of values of one type. -/
abbrev Reader (α : Type) := Draft → Except ReadError α

namespace Reader

/-- The error that a draft is not what is expected. -/
def mismatch {α : Type} (expected : String) : Reader α := fun draft =>
  match draft.found? with
  | some found => .error (.data (.invalidType found expected))
  | none => .error .malformed

/-- Reads a text; `expected` says in messages what it is the text of. -/
def text (expected : String) : Reader String
  | .str text => .ok text
  | draft => mismatch expected draft

/-- Reads a name. -/
def name {kind : NameKind} : Reader (Name kind) := fun draft =>
  match text "a string" draft with
  | .error error => .error error
  | .ok text =>
      match Name.ofText? text with
      | some name => .ok name
      | none => .error (.data (.emptyName kind))

/-- Reads a type from its text. -/
def type : Reader TypeRef := fun draft =>
  match text "a string" draft with
  | .error error => .error error
  | .ok text =>
      match TypeRef.parse text with
      | .ok type => .ok type
      | .error cause => .error (.data (.badType cause))

/-- Reads what may be absent, which is written as null. -/
def optional {α : Type} (reader : Reader α) : Reader (Option α)
  | .null => .ok none
  | draft =>
      match reader draft with
      | .ok value => .ok (some value)
      | .error error => .error error

/-- Reads elements in order. -/
def elements {α : Type} (reader : Reader α) : List Draft → Except ReadError (List α)
  | [] => .ok []
  | draft :: rest =>
      match reader draft with
      | .error error => .error error
      | .ok value =>
          match elements reader rest with
          | .error error => .error error
          | .ok values => .ok (value :: values)

/-- What has been read of a list, if the list can be read to its end. -/
def ended {α : Type} (ending : Ending) (value : α) : Except ReadError α :=
  match ending with
  | .complete | .closed => .ok value
  | .flawed _ => .error .malformed

/-- Reads a list. -/
def list {α : Type} (reader : Reader α) : Reader (List α)
  | .arr drafts ending =>
      match elements reader drafts with
      | .error error => .error error
      | .ok values => ended ending values
  | draft => mismatch "a sequence" draft

/-- Reads members in order, each into what has been read before. -/
def members {α : Type} (write : α → String → Draft → Except ReadError α) :
    α → List (String × Draft) → Except ReadError α
  | written, [] => .ok written
  | written, (key, draft) :: rest =>
      match write written key draft with
      | .error error => .error error
      | .ok written => members write written rest

/-- Reads a map. -/
def map {α : Type} (empty : α) (write : α → String → Draft → Except ReadError α) :
    Reader α
  | .obj drafts ending =>
      match members write empty drafts with
      | .error error => .error error
      | .ok written => ended ending written
  | draft => mismatch "a map" draft

end Reader

/-- A field of a record, and how it is read into what is known of the record. -/
structure Slot (σ : Type) where
  name : String
  read : σ → Draft → Except ReadError σ

/-- The field that a reader reads and that is then written into the record. -/
def Slot.of {σ α : Type} (name : String) (reader : Reader α) (write : σ → α → σ) :
    Slot σ where
  name := name
  read := fun state draft =>
    match reader draft with
    | .ok value => .ok (write state value)
    | .error error => .error error

/-- How a record is read: its fields in order, starting from nothing, and the
record that results, unless a field without a default is missing. -/
structure Schema (σ α : Type) where
  title : String
  slots : List (Slot σ)
  start : σ
  finish : σ → Except String α

namespace Schema

variable {σ α : Type}

/-- How messages speak of the record. -/
def expected (schema : Schema σ α) : String :=
  "struct " ++ schema.title

/-- How messages speak of the record as an array. -/
def expectedElements (schema : Schema σ α) : String :=
  schema.expected ++ " with " ++ toString schema.slots.length ++
    (if schema.slots.length = 1 then " element" else " elements")

/-- Reads the members of an object. `seen` lists the fields read so far. -/
def readMembers (schema : Schema σ α) (state : σ) (seen : List String) :
    List (String × Draft) → Except ReadError σ
  | [] => .ok state
  | (key, draft) :: rest =>
      match schema.slots.find? (·.name = key) with
      | none =>
          if draft.canSkip then schema.readMembers state seen rest else .error .malformed
      | some slot =>
          if key ∈ seen then
            .error (.data (.duplicateField key))
          else
            match slot.read state draft with
            | .error error => .error error
            | .ok state => schema.readMembers state (key :: seen) rest

/-- Reads elements into the fields in order. Returns the elements left over. -/
def readElements (state : σ) :
    List (Slot σ) → List Draft → Except ReadError (σ × List Draft)
  | [], rest => .ok (state, rest)
  | _ :: _, [] => .ok (state, [])
  | slot :: slots, draft :: rest =>
      match slot.read state draft with
      | .error error => .error error
      | .ok state => readElements state slots rest

/-- Reads a record. -/
def reader (schema : Schema σ α) : Reader α
  | .obj drafts ending =>
      match schema.readMembers schema.start [] drafts with
      | .error error => .error error
      | .ok state =>
          match Reader.ended ending state with
          | .error error => .error error
          | .ok state =>
              match schema.finish state with
              | .ok record => .ok record
              | .error missing => .error (.data (.missingField missing))
  | .arr drafts ending =>
      match readElements schema.start schema.slots drafts with
      | .error error => .error error
      | .ok (state, left) =>
          match left, ending with
          | _ :: _, .complete =>
              .error (.data (.invalidLength drafts.length "fewer elements in array"))
          | _ :: _, _ | [], .flawed _ => .error .malformed
          | [], _ =>
              match schema.finish state with
              | .ok record => .ok record
              | .error missing =>
                  .error (.data (.invalidLength
                    (schema.slots.findIdx (·.name = missing)) schema.expectedElements))
  | draft => Reader.mismatch schema.expected draft

end Schema

/-- Reads a value that is at hand as a whole. -/
def readWith {α : Type} (reader : Reader α) (value : Json) : Except ReadError α :=
  reader value.draft

/-- Reads a text, after which nothing but blanks may follow. -/
def readText {α : Type} (reader : Reader α) (text : String) : Except ReadError α :=
  match Draft.ofText text with
  | (draft, trailing) =>
      match reader draft with
      | .error error => .error error
      | .ok value => if trailing then .error .malformed else .ok value

end EventFields.Json

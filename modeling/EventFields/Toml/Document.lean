import EventFields.Toml.Basic

/-!
# Tables of a TOML document

A document builds up tables line by line. A table can be made on the way to
another one, by a dotted key or by its own header, and that decides what may
still be added to it: no key is written twice and no table is defined twice.
-/

namespace EventFields.Toml

/-- How a table came about. -/
inductive Origin where
  /-- On the way to the table of a header. -/
  | passed
  /-- On the way to the last part of a dotted key. -/
  | dotted
  /-- By its own header, or as the table of the whole document. -/
  | defined
  deriving DecidableEq

/-- What stands under a key. -/
inductive Node where
  | leaf (value : Value)
  | table (origin : Origin) (entries : List (String × Node))
  /-- An array of tables, the last one first. -/
  | tables (tables : List (List (String × Node)))

/-- The entries of a table. -/
abbrev Entries := List (String × Node)

namespace Node

/-- What stands under a key. -/
def find? (entries : Entries) (key : String) : Option Node :=
  (entries.find? (·.1 = key)).map Prod.snd

/-- Puts a node under a key, in place of what was there. -/
def put (key : String) (node : Node) : Entries → Entries
  | [] => [(key, node)]
  | entry :: rest => if entry.1 = key then (key, node) :: rest else entry :: put key node rest

/-- Follows the way of a header and changes the table at its end. -/
def alongHeader (change : Entries → Option Entries) : List String → Entries → Option Entries
  | [], entries => change entries
  | key :: way, entries =>
      match find? entries key with
      | none => (alongHeader change way []).map fun inner => put key (table .passed inner) entries
      | some (table origin inner) =>
          (alongHeader change way inner).map fun inner => put key (table origin inner) entries
      | some (tables (last :: others)) =>
          (alongHeader change way last).map fun last =>
            put key (tables (last :: others)) entries
      | some _ => none

/-- Writes a value under a key of one or more parts, into a table of some
origin. The tables on the way must not have been defined otherwise, save that
the last table of an array may be passed. The table at the end has to be one
that dotted keys have made if this key is dotted, and else must not be. -/
def write (value : Value) (isDotted : Bool) (origin : Origin) :
    List String → Entries → Option Entries
  | [], _ => none
  | [key], entries =>
      if isDotted = (origin = .dotted : Bool) && (find? entries key).isNone then
        some (put key (leaf value) entries)
      else none
  | key :: way, entries =>
      match find? entries key with
      | none =>
          (write value isDotted .dotted way []).map fun inner =>
            put key (table .dotted inner) entries
      | some (table .defined _) => none
      | some (table found inner) =>
          (write value isDotted found way inner).map fun inner =>
            put key (table found inner) entries
      | some (tables (last :: others)) =>
          (write value isDotted .defined way last).map fun last =>
            put key (tables (last :: others)) entries
      | some _ => none

/-- Writes a value under a key into a table that has been defined. -/
def writeEntry (value : Value) (key : List String) (entries : Entries) : Option Entries :=
  write value (1 < key.length) .defined key entries

/-- Defines the table of a header, unless it has been defined before. -/
def define (key : String) (entries : Entries) : Option Entries :=
  match find? entries key with
  | none => some (put key (table .defined []) entries)
  | some (table .passed inner) => some (put key (table .defined inner) entries)
  | some _ => none

/-- Adds a table to an array of tables. -/
def append (key : String) (entries : Entries) : Option Entries :=
  match find? entries key with
  | none => some (put key (tables [[]]) entries)
  | some (tables others) => some (put key (tables ([] :: others)) entries)
  | some _ => none

mutual

/-- The value of a node. -/
def toValue : Node → Value
  | leaf value => value
  | table _ entries => .table (entryValues entries)
  | tables all => .array (tableValues all)

/-- The values of entries. -/
def entryValues : Entries → List (String × Value)
  | [] => []
  | (key, node) :: rest => (key, node.toValue) :: entryValues rest

/-- The values of an array of tables, the first one first. -/
def tableValues : List Entries → List Value
  | [] => []
  | entries :: earlier => tableValues earlier ++ [.table (entryValues entries)]

end

end Node

end EventFields.Toml

import EventFields.Toml.Document
import EventFields.Toml.Number

/-!
# Reading TOML documents

A document consists of lines: keys with values, headers of tables, headers of
arrays of tables, and empty lines, all with a comment at the end if need be.
-/

namespace EventFields.Toml

/-- Arrays and inline tables nested this deep, or deeper, are refused. -/
def depthLimit : Nat := 80

/-- The text after blanks, line breaks and comments. -/
def skipLines : (fuel : Nat) → List Char → List Char
  | 0, input => input
  | fuel + 1, input =>
      let rest := skipComment (skipSpaces input)
      match lineBreak? rest with
      | some rest => skipLines fuel rest
      | none => rest

/-- The text after blanks, line breaks and comments. -/
def skipBlankLines (input : List Char) : List Char :=
  skipLines (input.length + 1) input

mutual

/-- Reads a value. Every step takes at least one character, so that `fuel` need
not exceed twice their number. -/
def readValue : (fuel depth : Nat) → Reader Value
  | 0, _, _ => none
  | _ + 1, _, [] => none
  | fuel + 1, depth, c :: rest =>
      match c with
      | '"' | '\'' => (readText (c :: rest)).map fun (text, rest) => (.text text, rest)
      | '[' =>
          if depth + 1 < depthLimit then
            (readElements fuel (depth + 1) (skipBlankLines rest)).map fun (elements, rest) =>
              (.array elements, rest)
          else none
      | '\x7b' =>
          if depth + 1 < depthLimit then
            match skipSpaces rest with
            | '\x7d' :: rest => some (.table [], rest)
            | rest =>
                (readEntries fuel (depth + 1) [] rest).map fun (entries, rest) =>
                  (.table (Node.entryValues entries), rest)
          else none
      | 't' =>
          match rest with
          | 'r' :: 'u' :: 'e' :: rest => some (.bool true, rest)
          | _ => none
      | 'f' =>
          match rest with
          | 'a' :: 'l' :: 's' :: 'e' :: rest => some (.bool false, rest)
          | _ => none
      | _ => readNumber (c :: rest)

/-- Reads the elements of an array up to its closing bracket. -/
def readElements : (fuel depth : Nat) → Reader (List Value)
  | 0, _, _ => none
  | fuel + 1, depth, input =>
      match input with
      | ']' :: rest => some ([], rest)
      | _ =>
          match readValue fuel depth input with
          | none => none
          | some (value, rest) =>
              match skipBlankLines rest with
              | ',' :: rest =>
                  (readElements fuel depth (skipBlankLines rest)).map fun (values, rest) =>
                    (value :: values, rest)
              | ']' :: rest => some ([value], rest)
              | _ => none

/-- Reads the entries of an inline table up to its closing brace. -/
def readEntries : (fuel depth : Nat) → (entries : Entries) → Reader Entries
  | 0, _, _, _ => none
  | fuel + 1, depth, entries, input =>
      match readKey input with
      | some (key, '=' :: rest) =>
          match readValue fuel depth (skipSpaces rest) with
          | none => none
          | some (value, rest) =>
              match Node.writeEntry value key entries, skipSpaces rest with
              | some entries, ',' :: rest => readEntries fuel depth entries rest
              | some entries, '\x7d' :: rest => some (entries, rest)
              | _, _ => none
      | _ => none

end

/-- A document that is being read: its table, and the way to the table to which
keys are added. -/
structure Reading where
  entries : Entries
  way : List String

/-- Reads a key with its value. -/
def readEntry (reading : Reading) (input : List Char) : Option (Reading × List Char) := do
  let (key, rest) ← readKey input
  let rest ← expect? '=' rest
  let (value, rest) ← readValue (2 * rest.length + 2) 0 (skipSpaces rest)
  let entries ← Node.alongHeader (Node.writeEntry value key) reading.way reading.entries
  return ({ reading with entries }, rest)

/-- Reads the header of a table, or of an array of tables. -/
def readHeader (reading : Reading) (input : List Char) : Option (Reading × List Char) :=
  match input with
  | '[' :: '[' :: rest => do
      let (key, rest) ← readKey rest
      let rest ← expect? ']' (← expect? ']' rest)
      let last ← key.getLast?
      let entries ← Node.alongHeader (Node.append last) key.dropLast reading.entries
      return (⟨entries, key⟩, rest)
  | '[' :: rest => do
      let (key, rest) ← readKey rest
      let rest ← expect? ']' rest
      let last ← key.getLast?
      let entries ← Node.alongHeader (Node.define last) key.dropLast reading.entries
      return (⟨entries, key⟩, rest)
  | _ => none

/-- Reads what a line holds, if it holds anything but a comment. -/
def readLine (reading : Reading) (input : List Char) : Option (Reading × List Char) :=
  match input with
  | [] | '#' :: _ | '\n' :: _ | '\r' :: _ => some (reading, input)
  | '[' :: _ => readHeader reading input
  | _ => readEntry reading input

/-- Reads lines up to the end of the text. Every line takes at least one
character, so that `fuel` need not exceed their number. -/
def readLines : (fuel : Nat) → Reading → List Char → Option Reading
  | 0, reading, input => if input.isEmpty then some reading else none
  | fuel + 1, reading, input =>
      match readLine reading (skipSpaces input) with
      | none => none
      | some (reading, rest) =>
          let rest := skipComment (skipSpaces rest)
          match rest, lineBreak? rest with
          | [], _ => some reading
          | _, some rest => readLines fuel reading rest
          | _, none => none

/-- The entries of a document, which may start with a byte order mark. -/
def parse? (text : String) : Option (List (String × Value)) :=
  let input :=
    match text.toList with
    | '\ufeff' :: rest => rest
    | input => input
  (readLines (input.length + 1) ⟨[], []⟩ input).map fun reading =>
    Node.entryValues reading.entries

end EventFields.Toml

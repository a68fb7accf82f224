import EventFields.Json.Basic
import EventFields.Number.Decimal
import EventFields.Text.Join
import EventFields.Text.Quoted

/-!
# Writing JSON

Values are written without blanks, or spread over lines. In strings only what
has to be escaped is escaped.
-/

namespace EventFields.Json

/-- A character of a string as it is written. -/
def writtenCharacter (c : Char) : String :=
  if c = '"' then "\\\""
  else if c = '\\' then "\\\\"
  else if c = '\x08' then "\\b"
  else if c = '\x0c' then "\\f"
  else if c = '\n' then "\\n"
  else if c = '\r' then "\\r"
  else if c = '\t' then "\\t"
  else if c < ' ' then
    "\\u00" ++ (if c.toNat < 16 then "0" else "") ++ Text.hexadecimal c.toNat
  else String.singleton c

/-- A string as it is written. -/
def writtenString (text : String) : String :=
  "\"" ++ String.join (text.toList.map writtenCharacter) ++ "\""

/-- A number, word or string as it is written; nothing for arrays and objects. -/
def writtenScalar : Json → String
  | null => "null"
  | bool value => if value then "true" else "false"
  | int value => toString value
  | float bits => (Decimal.shortest bits).text
  | str text => writtenString text
  | arr _ | obj _ => ""

mutual

/-- A value written without blanks. -/
def compact : Json → String
  | arr elements => "[" ++ Text.joined "," (compactElements elements) ++ "]"
  | obj members => "\x7b" ++ Text.joined "," (compactMembers members) ++ "\x7d"
  | null => "null"
  | bool value => writtenScalar (bool value)
  | int value => writtenScalar (int value)
  | float bits => writtenScalar (float bits)
  | str text => writtenString text

/-- The elements of an array, each written without blanks. -/
def compactElements : List Json → List String
  | [] => []
  | element :: rest => compact element :: compactElements rest

/-- The members of an object, each written without blanks. -/
def compactMembers : List (String × Json) → List String
  | [] => []
  | (key, value) :: rest =>
      (writtenString key ++ ":" ++ compact value) :: compactMembers rest

end

/-- A line break, and two spaces for every level. -/
def lineBreak (level : Nat) : String :=
  "\n" ++ String.ofList (List.replicate (2 * level) ' ')

/-- Items on lines of their own between brackets, or nothing between them. -/
def spread (level : Nat) (opening closing : String) : List String → String
  | [] => opening ++ closing
  | items =>
      opening ++ lineBreak (level + 1) ++
        Text.joined ("," ++ lineBreak (level + 1)) items ++ lineBreak level ++ closing

mutual

/-- A value spread over lines, at a level of nesting. -/
def prettyAt (level : Nat) : Json → String
  | arr elements => spread level "[" "]" (prettyElements (level + 1) elements)
  | obj members => spread level "\x7b" "\x7d" (prettyMembers (level + 1) members)
  | null => "null"
  | bool value => writtenScalar (bool value)
  | int value => writtenScalar (int value)
  | float bits => writtenScalar (float bits)
  | str text => writtenString text

/-- The elements of an array, each spread over lines. -/
def prettyElements (level : Nat) : List Json → List String
  | [] => []
  | element :: rest => prettyAt level element :: prettyElements level rest

/-- The members of an object, each spread over lines. -/
def prettyMembers (level : Nat) : List (String × Json) → List String
  | [] => []
  | (key, value) :: rest =>
      (writtenString key ++ ": " ++ prettyAt level value) :: prettyMembers level rest

end

/-- A value spread over lines, two spaces a level. -/
def pretty (value : Json) : String :=
  prettyAt 0 value

end EventFields.Json

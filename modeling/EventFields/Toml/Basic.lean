/-!
# TOML values
-/

namespace EventFields.Toml

/-- A TOML value. Of dates and times it only matters that they are some. -/
inductive Value where
  | bool (value : Bool)
  | integer (value : Int)
  | float (bits : UInt64)
  | text (text : String)
  | dateTime
  | array (elements : List Value)
  | table (entries : List (String × Value))
  deriving Repr

/-- A reader takes something from the front of a text and returns the rest. -/
abbrev Reader (α : Type) := List Char → Option (α × List Char)

/-- Blanks inside a line. -/
def isSpace (c : Char) : Bool :=
  c = ' ' || c = '\t'

/-- The text after blanks. -/
def skipSpaces (input : List Char) : List Char :=
  input.dropWhile isSpace

/-- Whether a character may stand in comments and literal strings. -/
def isPlain (c : Char) : Bool :=
  c = '\t' || (' ' ≤ c && c ≠ '\x7f')

/-- The text after a line break, if it starts with one. -/
def lineBreak? : List Char → Option (List Char)
  | '\n' :: rest => some rest
  | '\r' :: '\n' :: rest => some rest
  | _ => none

/-- The text after a comment, if it starts with one. -/
def skipComment (input : List Char) : List Char :=
  match input with
  | '#' :: rest => rest.dropWhile isPlain
  | _ => input

end EventFields.Toml

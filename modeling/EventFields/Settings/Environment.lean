import EventFields.Settings.Value
import EventFields.Text.Blank
import EventFields.Toml.Number

/-!
# Settings from the environment

A variable whose name starts with `EVGEN_`, in letters of any case, gives a
value to the setting named by the rest. The text of a variable is read as a
switch, a number, a list or a quoted text if it is one as a whole, and else
stands for itself.
-/

namespace EventFields.Environment

/-- A variable: its name and its text. -/
abbrev Variable := String × String

/-- Blanks between the parts of a value. -/
def isSpace (c : Char) : Bool :=
  c = ' ' || c = '\t' || c = '\n' || c = '\x0c' || c = '\r'

/-- The text after blanks. -/
def skipSpaces (input : List Char) : List Char :=
  input.dropWhile isSpace

/-- Whether a character separates values. -/
def isSeparator (c : Char) : Bool :=
  c = ',' || c = '\x7b' || c = '\x7d' || c = '[' || c = ']'

/-- Whether a character may stand in a key without quotes. -/
def isKeyCharacter (c : Char) : Bool :=
  c.isAlphanum || c = '_' || c = '-'

/-- Whether a text is a number with an optional sign and exponent, which has a
digit beside its point. -/
def decimal? (text : List Char) : Option UInt64 :=
  let (negative, text) :=
    match text with
    | '+' :: rest => (false, rest)
    | '-' :: rest => (true, rest)
    | _ => (false, text)
  let whole := text.takeWhile Char.isDigit
  let (decimals, rest) :=
    match text.dropWhile Char.isDigit with
    | '.' :: rest => (rest.takeWhile Char.isDigit, rest.dropWhile Char.isDigit)
    | rest => ([], rest)
  let exponent? : Option Int :=
    match rest with
    | [] => some 0
    | 'e' :: rest | 'E' :: rest =>
        let (negative, digits) :=
          match rest with
          | '+' :: digits => (false, digits)
          | '-' :: digits => (true, digits)
          | digits => (false, digits)
        if digits.isEmpty || !digits.all Char.isDigit then none
        else
          let size : Int := Toml.digitsValue 10 digits
          some (if negative then -size else size)
    | _ => none
  match exponent?, whole ++ decimals with
  | none, _ | _, [] => none
  | some exponent, digits =>
      let magnitude := Toml.nearestDouble digits (exponent - decimals.length)
      some (if negative then -magnitude else magnitude).toBits

/-- The value of digits, if there are any and nothing else. -/
def digits? (text : List Char) : Option Nat :=
  if text.isEmpty || !text.all Char.isDigit then none else some (Toml.digitsValue 10 text)

/-- A number of 64 bits, without a sign or with one. -/
def whole? (text : List Char) : Option SettingValue :=
  match text with
  | '-' :: digits =>
      match digits? digits with
      | some size => if size ≤ Nat.pow 2 63 then some (.signed (-size)) else none
      | none => none
  | _ =>
      let digits :=
        match text with
        | '+' :: digits => digits
        | digits => digits
      match digits? digits with
      | some size => if size < Nat.pow 2 64 then some (.unsigned size) else none
      | none => none

/-- A value without quotes or brackets. -/
def plainValue (text : List Char) : SettingValue :=
  let float? := if text.contains '.' then decimal? text else none
  match float?, whole? text with
  | some bits, _ => .float bits
  | none, some number => number
  | none, none => .text (String.ofList text)

/-- The longest front of a text that takes up no more than a number of bytes. -/
def takeBytes : (bytes : Nat) → List Char → List Char
  | _, [] => []
  | bytes, c :: rest => if c.utf8Size ≤ bytes then c :: takeBytes (bytes - c.utf8Size) rest else []

/-- Reads the rest of a text between double quotes. Of the characters before the
first escape, only as many bytes are kept as there are characters. -/
def quotedText (input : List Char) : Option (List Char × List Char) :=
  let isVerbatim := fun c => c ≠ '\\' && c ≠ '"'
  let verbatim := input.takeWhile isVerbatim
  let kept :=
    if (input.dropWhile isVerbatim).head? = some '\\' then takeBytes verbatim.length verbatim
    else verbatim
  (Toml.basicText input).map fun (text, rest) => (kept ++ text.drop verbatim.length, rest)

/-- Reads a key between quotes or without them. -/
def readKey (input : List Char) : Option (List Char × List Char) :=
  match input with
  | '"' :: rest => Toml.basicText rest
  | _ =>
      let key := input.takeWhile isKeyCharacter
      if key.isEmpty then none else some (key, input.dropWhile isKeyCharacter)

mutual

/-- Reads a value and the blanks around it. Every step takes at least one
character, so that `fuel` need not exceed twice their number. -/
def readValue : (fuel : Nat) → Toml.Reader SettingValue
  | 0, _ => none
  | fuel + 1, input =>
      let read? : Option (SettingValue × List Char) :=
        match skipSpaces input with
        | 't' :: 'r' :: 'u' :: 'e' :: rest => some (.bool true, rest)
        | 'f' :: 'a' :: 'l' :: 's' :: 'e' :: rest => some (.bool false, rest)
        | '\x7b' :: rest => (readEntries fuel rest).map (.map, ·)
        | '[' :: rest => (readElements fuel rest).map fun (values, rest) => (.list values, rest)
        | '"' :: rest =>
            (quotedText rest).map fun (text, rest) => (.text (String.ofList text), rest)
        | '\'' :: c :: '\'' :: rest => some (.text (String.singleton c), rest)
        | '\'' :: _ => none
        | rest =>
            let plain := rest.takeWhile fun c => !isSeparator c
            some (plainValue (Text.trim plain), rest.dropWhile fun c => !isSeparator c)
      read?.map fun (value, rest) => (value, skipSpaces rest)

/-- Reads elements up to a closing bracket. A comma may follow the last one. -/
def readElements : (fuel : Nat) → Toml.Reader (List SettingValue)
  | 0, _ => none
  | _ + 1, ']' :: rest => some ([], rest)
  | fuel + 1, input =>
      match readValue fuel input with
      | some (value, ',' :: rest) =>
          (readElements fuel rest).map fun (values, rest) => (value :: values, rest)
      | some (value, ']' :: rest) => some ([value], rest)
      | _ => none

/-- The text after entries and their closing brace. -/
def readEntries : (fuel : Nat) → List Char → Option (List Char)
  | 0, _ => none
  | _ + 1, '\x7d' :: rest => some rest
  | fuel + 1, input =>
      match readKey (skipSpaces input) with
      | none => none
      | some (_, rest) =>
          match skipSpaces rest with
          | '=' :: rest =>
              match readValue fuel rest with
              | some (_, ',' :: rest) => readEntries fuel rest
              | some (_, '\x7d' :: rest) => some rest
              | _ => none
          | _ => none

end

/-- The value of a text. -/
def parseValue (text : String) : SettingValue :=
  match readValue (2 * text.length + 2) text.toList with
  | some (value, []) => value
  | _ => .text text

/-- What variables of the program start with. -/
def leading : String := "EVGEN_"

/-- The text after the leading word, letters of any case being the same. -/
def afterLeading? : (leading name : List Char) → Option (List Char)
  | [], name => some name
  | _ :: _, [] => none
  | expected :: leading, c :: name =>
      if c.toLower = expected.toLower then afterLeading? leading name else none

/-- The setting that a variable gives a value to, and the value. A name with a
dot belongs to a setting inside another one, which is then a map. No part of a
name is empty. -/
def setting? (entry : Variable) : Option (String × SettingValue) :=
  match afterLeading? leading.toList (Text.trim entry.1.toList) with
  | none => none
  | some rest =>
      let key := String.ofList ((Text.trim rest).map Char.toLower)
      match key.splitOn "." with
      | [name] => if name.isEmpty then none else some (name, parseValue entry.2)
      | name :: inner =>
          if name.isEmpty || inner.any String.isEmpty then none else some (name, .map)
      | [] => none

/-- The values that variables give to settings, in order. -/
def source (environment : List Variable) : SettingSource :=
  environment.filterMap setting?

end EventFields.Environment

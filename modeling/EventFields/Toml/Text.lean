import EventFields.Text.Hexadecimal
import EventFields.Toml.Basic

/-!
# Strings and keys of TOML

A string stands between single or double quotes, or between three of them over
several lines. Between double quotes a backslash starts an escape.
-/

namespace EventFields.Toml

/-- The character for a letter after a backslash. -/
def escaped? : Char → Option Char
  | 'b' => some '\x08'
  | 't' => some '\t'
  | 'n' => some '\n'
  | 'f' => some '\x0c'
  | 'r' => some '\r'
  | '"' => some '"'
  | '\\' => some '\\'
  | _ => none

/-- Puts a character in front of what is read after it, if both can be read. -/
def prepend (c? : Option Char) (read? : Option (List Char × List Char)) :
    Option (List Char × List Char) :=
  match c?, read? with
  | some c, some (text, rest) => some (c :: text, rest)
  | _, _ => none

/-- The rest of a string between double quotes. -/
def basicText : Reader (List Char)
  | [] => none
  | '"' :: rest => some ([], rest)
  | '\\' :: 'u' :: a :: b :: c :: d :: rest =>
      prepend (Text.characterOfHex? [a, b, c, d]) (basicText rest)
  | '\\' :: 'U' :: a :: b :: c :: d :: e :: f :: g :: h :: rest =>
      prepend (Text.characterOfHex? [a, b, c, d, e, f, g, h]) (basicText rest)
  | '\\' :: letter :: rest => prepend (escaped? letter) (basicText rest)
  | c :: rest => if isPlain c && c ≠ '\\' then prepend (some c) (basicText rest) else none

/-- The rest of a string between single quotes. -/
def literalText : Reader (List Char)
  | [] => none
  | '\'' :: rest => some ([], rest)
  | c :: rest => if isPlain c then prepend (some c) (literalText rest) else none

/-- What is left out at this point of a string over several lines. -/
inductive Gap where
  /-- Nothing. -/
  | none
  /-- Blanks up to the end of the line, after a backslash. -/
  | line
  /-- Blanks and line breaks. -/
  | lines
  deriving DecidableEq

/-- The rest of a string between three double quotes. Two more quotes at its
end belong to the string. -/
def basicLines : Gap → Reader (List Char)
  | _, [] => Option.none
  | .line, '\r' :: '\n' :: rest => basicLines .lines rest
  | .line, c :: rest =>
      if isSpace c then basicLines .line rest
      else if c = '\n' then basicLines .lines rest
      else Option.none
  | .lines, ' ' :: rest => basicLines .lines rest
  | .lines, '\t' :: rest => basicLines .lines rest
  | .lines, '\n' :: rest => basicLines .lines rest
  | .lines, '\r' :: '\n' :: rest => basicLines .lines rest
  | _, '"' :: '"' :: '"' :: '"' :: '"' :: rest => some (['"', '"'], rest)
  | _, '"' :: '"' :: '"' :: '"' :: rest => some (['"'], rest)
  | _, '"' :: '"' :: '"' :: rest => some ([], rest)
  | _, '\\' :: 'u' :: a :: b :: c :: d :: rest =>
      prepend (Text.characterOfHex? [a, b, c, d]) (basicLines .none rest)
  | _, '\\' :: 'U' :: a :: b :: c :: d :: e :: f :: g :: h :: rest =>
      prepend (Text.characterOfHex? [a, b, c, d, e, f, g, h]) (basicLines .none rest)
  | _, '\\' :: '\r' :: '\n' :: rest => basicLines .lines rest
  | _, '\\' :: letter :: rest =>
      if isSpace letter then basicLines .line rest
      else if letter = '\n' then basicLines .lines rest
      else prepend (escaped? letter) (basicLines .none rest)
  | _, '\r' :: '\n' :: rest => prepend (some '\n') (basicLines .none rest)
  | _, c :: rest =>
      if (isPlain c && c ≠ '\\') || c = '\n' then prepend (some c) (basicLines .none rest)
      else Option.none

/-- The rest of a string between three single quotes. -/
def literalLines : Reader (List Char)
  | [] => none
  | '\'' :: '\'' :: '\'' :: '\'' :: '\'' :: rest => some (['\'', '\''], rest)
  | '\'' :: '\'' :: '\'' :: '\'' :: rest => some (['\''], rest)
  | '\'' :: '\'' :: '\'' :: rest => some ([], rest)
  | '\r' :: '\n' :: rest => prepend (some '\n') (literalLines rest)
  | c :: rest => if isPlain c || c = '\n' then prepend (some c) (literalLines rest) else none

/-- The text without a line break at its start. -/
def skipFirstBreak (input : List Char) : List Char :=
  (lineBreak? input).getD input

/-- Reads a string of any kind. -/
def readText (input : List Char) : Option (String × List Char) :=
  let read? :=
    match input with
    | '"' :: '"' :: '"' :: rest => basicLines .none (skipFirstBreak rest)
    | '"' :: rest => basicText rest
    | '\'' :: '\'' :: '\'' :: rest => literalLines (skipFirstBreak rest)
    | '\'' :: rest => literalText rest
    | _ => none
  read?.map fun (text, rest) => (String.ofList text, rest)

/-- Whether a character may stand in a key without quotes. -/
def isBareKey (c : Char) : Bool :=
  c.isAlphanum || c = '_' || c = '-'

/-- Reads one part of a key. -/
def readKeyPart (input : List Char) : Option (String × List Char) :=
  let read? :=
    match input with
    | '"' :: rest => basicText rest
    | '\'' :: rest => literalText rest
    | _ =>
        let bare := input.takeWhile isBareKey
        if bare.isEmpty then none else some (bare, input.dropWhile isBareKey)
  read?.map fun (text, rest) => (String.ofList text, rest)

/-- Reads the parts of a key, with blanks and dots between them. Every part
takes a character, so that `fuel` need not exceed their number. -/
def readKeyParts : (fuel : Nat) → Reader (List String)
  | 0, _ => none
  | fuel + 1, input =>
      match readKeyPart (skipSpaces input) with
      | none => none
      | some (part, rest) =>
          match skipSpaces rest with
          | '.' :: rest => (readKeyParts fuel rest).map fun (parts, rest) => (part :: parts, rest)
          | rest => some ([part], rest)

/-- The greatest number of parts of a key. -/
def maxKeyParts : Nat := 79

/-- Reads a key and the blanks around it. -/
def readKey (input : List Char) : Option (List String × List Char) :=
  match readKeyParts (input.length + 1) input with
  | some (parts, rest) => if parts.length ≤ maxKeyParts then some (parts, rest) else none
  | none => none

end EventFields.Toml

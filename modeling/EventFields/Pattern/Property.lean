import EventFields.Pattern.CharacterSet
import EventFields.Unicode.Age
import EventFields.Unicode.Category
import EventFields.Unicode.Script
import EventFields.Unicode.ScriptExtension
import EventFields.Unicode.Segmentation
import EventFields.Unicode.Trait

/-!
# Sets of characters with a property

A property is asked for by the name of a trait, a general category or a script,
or by the name of a property together with one of its values. In names only
letters and digits matter, not their case, and a leading "is" may be added.
-/

namespace EventFields.Pattern

open EventFields.Unicode

/-- A question for the characters with a property. -/
inductive PropertyQuery where
  | named (name : List Char)
  | valued (name value : List Char)
  deriving Repr, DecidableEq

namespace PropertyQuery

/-- A name in lower case without blanks, hyphens, underscores and characters
beyond ASCII. A leading "is" is dropped unless only "c" is left without it. -/
def normalized (name : List Char) : String :=
  let simplify := fun name : List Char =>
    (name.filter fun c => c.toNat < 0x80 && c ≠ ' ' && c ≠ '_' && c ≠ '-').map Char.toLower
  match name with
  | first :: second :: rest =>
      if first.toLower = 'i' && second.toLower = 's' then
        if simplify rest = ['c'] then "isc" else String.ofList (simplify rest)
      else String.ofList (simplify name)
  | _ => String.ofList (simplify name)

/-- The characters that a table lists under a name. -/
def listed? (tables : List PropertyTable) (name : String) : Option CharacterSet :=
  (findTable? tables name).map fun table => .ofRanges table.ranges

/-- The characters of a general category, or of a group of them. -/
def category? (name : String) : Option CharacterSet :=
  if name = "any" then some .all
  else if name = "ascii" then some (.range '\x00' '\x7f')
  else if name = "assigned" then (listed? generalCategories "cn").map (·.complement)
  else
    match categoryGroups.find? (·.1.contains name) with
    | some (_, members) =>
        some <| .ofRanges <| members.flatMap fun member =>
          ((findTable? (surrogates :: generalCategories) member).map (·.ranges)).getD []
    | none => listed? generalCategories name

/-- The characters that have been assigned up to a version. -/
def age? (name : String) : Option CharacterSet :=
  if (findTable? ages name).isNone then none
  else
    let later := (ages.dropWhile fun table => !table.names.contains name).drop 1
    some (.ofRanges ((ages.take (ages.length - later.length)).flatMap (·.ranges)))

/-- The characters with a property, if it is known. -/
def characters? : PropertyQuery → Option CharacterSet
  | named name =>
      let name := normalized name
      listed? traits name <|> category? name <|> listed? scripts name
  | valued name value =>
      let name := normalized name
      let value := normalized value
      if name = "gc" || name = "generalcategory" then category? value
      else if name = "sc" || name = "script" then listed? scripts value
      else if name = "scx" || name = "scriptextensions" then listed? scriptExtensions value
      else if name = "age" then age? value
      else if name = "gcb" || name = "graphemeclusterbreak" then listed? graphemeBreaks value
      else if name = "wb" || name = "wordbreak" then listed? wordBreaks value
      else if name = "sb" || name = "sentencebreak" then listed? sentenceBreaks value
      else none

end PropertyQuery

/-- The characters that are listed under some names. -/
def listedTogether (tables : List PropertyTable) (names : List String) : CharacterSet :=
  .ofRanges <| names.flatMap fun name => ((findTable? tables name).map (·.ranges)).getD []

namespace CharacterSet

/-- The decimal digits of all scripts. -/
def digits : CharacterSet :=
  listedTogether generalCategories ["nd"]

/-- White space. -/
def blanks : CharacterSet :=
  listedTogether traits ["whitespace"]

/-- Alphabetic characters, marks, decimal digits, connectors and joiners. -/
def wordCharacters : CharacterSet :=
  (listedTogether traits ["alpha", "joinc"]).union
    (listedTogether generalCategories ["mn", "mc", "me", "nd", "pc"])

end CharacterSet

end EventFields.Pattern

/-!
# Tables of character properties

A table lists code points in hexadecimal: single ones, ranges with a hyphen
between their ends, and ranges of which only every so many-th code point is
meant, with that step after a slash.
-/

namespace EventFields.Unicode

/-- A property, or a value of a property, with the code points that have it. -/
structure PropertyTable where
  /-- The names of the property in lower case, without blanks and hyphens. -/
  names : List String
  lines : List String

namespace PropertyTable

/-- The code point in hexadecimal digits. -/
def code (digits : String) : Nat :=
  digits.toList.foldl
    (fun code digit =>
      code * 16 + digit.toNat - if digit.isDigit then '0'.toNat else 'a'.toNat - 10) 0

/-- The ranges of an entry, ends included. -/
def entryRanges (entry : String) : List (Nat × Nat) :=
  match (entry.splitOn "/").map (·.splitOn "-") with
  | [[single]] => [(code single, code single)]
  | [[first, last]] => [(code first, code last)]
  | [[first, last], [step]] =>
      (List.range ((code last - code first) / code step + 1)).map fun index =>
        (code first + index * code step, code first + index * code step)
  | _ => []

/-- The ranges of a table, ends included, in ascending order. -/
def ranges (table : PropertyTable) : List (Nat × Nat) :=
  table.lines.flatMap fun line => (line.splitOn " ").flatMap entryRanges

end PropertyTable

/-- The table of a given name. -/
def findTable? (tables : List PropertyTable) (name : String) : Option PropertyTable :=
  tables.find? (·.names.contains name)

end EventFields.Unicode

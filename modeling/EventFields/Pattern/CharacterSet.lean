import EventFields.Text.Folding

/-!
# Sets of characters in patterns

A set is kept as ranges of code points in ascending order that neither overlap
nor touch, so that equal sets have equal ranges.
-/

namespace EventFields.Pattern

/-- A set of characters, as ranges of code points, ends included. -/
structure CharacterSet where
  ranges : List (Nat × Nat)
  deriving Repr, DecidableEq

namespace CharacterSet

/-- The greatest code point. -/
def maxCode : Nat := 0x10ffff

/-- The code point of the next character. -/
def nextCode (code : Nat) : Nat :=
  if code = 0xd7ff then 0xe000 else code + 1

/-- The code point of the character before. -/
def previousCode (code : Nat) : Nat :=
  if code = 0xe000 then 0xd7ff else code - 1

/-- Joins a range with those after it that overlap or touch it. -/
def joinFrom (current : Nat × Nat) : List (Nat × Nat) → List (Nat × Nat)
  | [] => [current]
  | range :: rest =>
      if range.1 ≤ current.2 + 1 then joinFrom (current.1, max current.2 range.2) rest
      else current :: joinFrom range rest

/-- Joins ranges in ascending order that overlap or touch each other. -/
def join : List (Nat × Nat) → List (Nat × Nat)
  | [] => []
  | range :: rest => joinFrom range rest

/-- The set of the code points in some ranges. -/
def ofRanges (ranges : List (Nat × Nat)) : CharacterSet :=
  ⟨join (ranges.mergeSort fun left right => left.1 ≤ right.1)⟩

/-- The set without characters. -/
def empty : CharacterSet := ⟨[]⟩

/-- The set of all characters. -/
def all : CharacterSet := ⟨[(0, maxCode)]⟩

/-- The characters from a first one to a last one. -/
def range (first last : Char) : CharacterSet := ⟨[(first.toNat, last.toNat)]⟩

/-- The set of one character. -/
def single (c : Char) : CharacterSet := range c c

/-- Whether a code point is in the set. -/
def containsCode (set : CharacterSet) (code : Nat) : Bool :=
  set.ranges.any fun range => range.1 ≤ code && code ≤ range.2

/-- Whether a character is in the set. -/
def contains (set : CharacterSet) (c : Char) : Bool :=
  set.containsCode c.toNat

/-- The only character of a set, if there is just one. -/
def single? (set : CharacterSet) : Option Char :=
  match set.ranges with
  | [(first, last)] => if first = last then some (Char.ofNat first) else none
  | _ => none

/-- Whether all characters of a set are ASCII. -/
def isAscii (set : CharacterSet) : Bool :=
  set.ranges.getLast?.all fun range => range.2 < 0x80

/-- The characters that are in one of two sets. -/
def union (left right : CharacterSet) : CharacterSet :=
  ⟨join (left.ranges.merge right.ranges fun left right => left.1 ≤ right.1)⟩

/-- The gaps after a code point and between some ranges. A gap that holds no
more than the surrogates is taken for the two characters at its sides. -/
def gapsAfter (code : Nat) : List (Nat × Nat) → List (Nat × Nat)
  | [] => if code < maxCode then [(nextCode code, maxCode)] else []
  | range :: rest =>
      let first := nextCode code
      let last := previousCode range.1
      (min first last, max first last) :: gapsAfter range.2 rest

/-- The characters that are not in a set. -/
def complement (set : CharacterSet) : CharacterSet :=
  match set.ranges with
  | [] => all
  | range :: rest =>
      ⟨(if 0 < range.1 then [(0, previousCode range.1)] else []) ++ gapsAfter range.2 rest⟩

/-- The characters that are in both of two sets. -/
def intersection (left right : CharacterSet) : CharacterSet :=
  ⟨left.ranges.flatMap fun range => right.ranges.filterMap fun other =>
    let first := max range.1 other.1
    let last := min range.2 other.2
    if first ≤ last then some (first, last) else none⟩

/-- What is left of a range without the code points of another one. -/
def cut (other range : Nat × Nat) : List (Nat × Nat) :=
  if other.2 < range.1 || range.2 < other.1 then [range]
  else
    (if range.1 < other.1 then [(range.1, previousCode other.1)] else []) ++
      if other.2 < range.2 then [(nextCode other.2, range.2)] else []

/-- The characters of one set that are not in another. -/
def difference (left right : CharacterSet) : CharacterSet :=
  ⟨right.ranges.foldl (fun ranges other => ranges.flatMap (cut other)) left.ranges⟩

/-- The characters that are in one of two sets, but not in both. -/
def symmetricDifference (left right : CharacterSet) : CharacterSet :=
  (left.union right).difference (left.intersection right)

/-- Code points that case folding changes, each with the one it is changed to. -/
def foldingPairs : List (Nat × Nat) :=
  Text.foldingRuns.flatMap fun run =>
    (List.range ((run.last - run.first) / run.step + 1)).map fun index =>
      (run.first + index * run.step, run.image (run.first + index * run.step))

/-- All characters that are the same letter as one of a set, case aside. -/
def caseClosure (set : CharacterSet) : CharacterSet :=
  let folded := ofRanges <| foldingPairs.filterMap fun pair =>
    if set.containsCode pair.1 || set.containsCode pair.2 then some (pair.2, pair.2) else none
  let unfolded := ofRanges <| foldingPairs.filterMap fun pair =>
    if folded.containsCode pair.2 then some (pair.1, pair.1) else none
  (set.union folded).union unfolded

/-- A set with the other case of each of its ASCII letters. -/
def asciiCaseClosure (set : CharacterSet) : CharacterSet :=
  let shifted := fun (first last : Char) (shift : Nat → Nat) =>
    (set.intersection (range first last)).ranges.map fun range => (shift range.1, shift range.2)
  set.union (ofRanges (shifted 'a' 'z' (· - 32) ++ shifted 'A' 'Z' (· + 32)))

end CharacterSet

end EventFields.Pattern

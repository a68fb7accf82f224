import EventFields.Pattern.Basic

/-!
# Searching for patterns

A text has a place before each of its characters and one at its end. A set of
places is kept as the bits of a number, so that a pattern becomes a walk that
takes all places of a set at once to the places where a match that starts there
can end.
-/

namespace EventFields.Pattern

/-- A place in a text: the characters before and after it, if there are any. -/
structure Place where
  before? : Option Char
  after? : Option Char

/-- The places of a text, given the character before it. -/
def placesAfter (before? : Option Char) : List Char → List Place
  | [] => [⟨before?, none⟩]
  | c :: text => ⟨before?, some c⟩ :: placesAfter (some c) text

/-- The number whose bits are given, the lowest one first. -/
def bits (marks : List Bool) : Nat :=
  marks.foldr (fun mark number => 2 * number + mark.toNat) 0

namespace WordEdge

/-- Whether a condition holds between two characters, of each of which it is
known whether it is a word character. -/
def holds (before after : Bool) : WordEdge → Bool
  | boundary => before != after
  | noBoundary => before == after
  | start => !before && after
  | stop => before && !after
  | startHalf => !before
  | stopHalf => !after

end WordEdge

namespace Assertion

/-- Whether there is a word character. -/
def isWord (ascii : Bool) (c? : Option Char) : Bool :=
  c?.any fun c =>
    if ascii then c.isAlphanum || c = '_' else CharacterSet.wordCharacters.contains c

/-- Whether a condition holds at a place. A carriage return and a line feed
after it are one line break. -/
def holds (place : Place) : Assertion → Bool
  | textStart => place.before?.isNone
  | textEnd => place.after?.isNone
  | lineStart false => place.before?.all (· = '\n')
  | lineEnd false => place.after?.all (· = '\n')
  | lineStart true =>
      place.before?.all fun c => c = '\n' || (c = '\r' && place.after? ≠ some '\n')
  | lineEnd true =>
      place.after?.all fun c => c = '\r' || (c = '\n' && place.before? ≠ some '\r')
  | word ascii edge => edge.holds (isWord ascii place.before?) (isWord ascii place.after?)

end Assertion

/-- What a pattern does to a set of places of a text. -/
inductive Walk where
  /-- Stays at those places that are in a set. -/
  | stay (places : Nat)
  /-- Goes on by one character from those places that are in a set. -/
  | advance (places : Nat)
  | repetition (minimum : Nat) (maximum? : Option Nat) (repeated : Walk)
  | sequence (steps : List Walk)
  | choice (branches : List Walk)

mutual

/-- What a pattern does to the places of a text. -/
def walk (places : List Place) : Pattern → Walk
  | empty => .sequence []
  | literal text =>
      .sequence <| text.map fun c => .advance (bits (places.map (·.after? = some c)))
  | set _ characters =>
      .advance (bits (places.map fun place => place.after?.any characters.contains))
  | assertion condition => .stay (bits (places.map fun place => condition.holds place))
  | repetition _ minimum maximum? repeated =>
      .repetition minimum maximum? (repeated.walk places)
  | group _ body => body.walk places
  | sequence parts => .sequence (walks places parts)
  | choice branches => .choice (walks places branches)

/-- What some patterns do to the places of a text. -/
def walks (places : List Place) : List Pattern → List Walk
  | [] => []
  | pattern :: rest => pattern.walk places :: walks places rest

end

namespace Walk

/-- The places after a number of steps. Once a step changes nothing, none does. -/
def iterate (step : Nat → Nat) : (count : Nat) → (places : Nat) → Nat
  | 0, places => places
  | count + 1, places =>
      let next := step places
      if next = places then places else iterate step count next

/-- The places that are reached in some number of steps up to a limit. Each step
starts from the places that the one before has reached first. -/
def spread (step : Nat → Nat) : (limit : Nat) → (reached fresh : Nat) → Nat
  | 0, reached, _ => reached
  | limit + 1, reached, fresh =>
      let next := step fresh
      let fresh := next ^^^ (next &&& reached)
      if fresh = 0 then reached else spread step limit (reached ||| fresh) fresh

mutual

/-- The places where a walk through a text of some length ends that starts at
one of a set of places. Without a maximum, more repetitions than there are
places reach nothing new. -/
def run (length : Nat) : Walk → (places : Nat) → Nat
  | stay allowed, places => places &&& allowed
  | advance allowed, places => (places &&& allowed) <<< 1
  | repetition minimum maximum? repeated, places =>
      let least := iterate (repeated.run length) minimum places
      let more := (maximum?.map (· - minimum)).getD (length + 1)
      spread (repeated.run length) more least least
  | sequence steps, places => runAll length steps places
  | choice branches, places => runAny length branches places

/-- The places where some walks one after another end. -/
def runAll (length : Nat) : List Walk → (places : Nat) → Nat
  | [], places => places
  | step :: rest, places => runAll length rest (step.run length places)

/-- The places where one of some walks ends. -/
def runAny (length : Nat) : List Walk → (places : Nat) → Nat
  | [], _ => 0
  | branch :: rest, places => branch.run length places ||| runAny length rest places

end

end Walk

/-- Whether a pattern matches somewhere in a text. -/
def occursIn (pattern : Pattern) (text : String) : Bool :=
  let places := placesAfter none text.toList
  (pattern.walk places).run places.length (bits (places.map fun _ => true)) ≠ 0

end EventFields.Pattern

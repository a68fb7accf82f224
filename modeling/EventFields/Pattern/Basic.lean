import EventFields.Pattern.Property

/-!
# Patterns

A pattern is kept in a normal form: parts are not nested in sequences of their
own, neighbouring characters are one text, and choices between characters are
sets. The functions that build patterns keep this form.
-/

namespace EventFields

namespace Pattern

/-- The edges of words that a condition may ask for. -/
inductive WordEdge where
  /-- A word starts or ends here, or none does. -/
  | boundary
  | noBoundary
  /-- A word starts here, or one ends here. -/
  | start
  | stop
  /-- There is no word character before, or none after. -/
  | startHalf
  | stopHalf
  deriving Repr, DecidableEq

/-- A condition on the place between two characters. -/
inductive Assertion where
  /-- The text starts or ends here. -/
  | textStart
  | textEnd
  /-- A line starts or ends here, with a carriage return as another line break
  if `crlf` is set. -/
  | lineStart (crlf : Bool)
  | lineEnd (crlf : Bool)
  /-- A word is at this place in some way. It has word characters of all
  scripts, or of ASCII only. -/
  | word (ascii : Bool) (edge : WordEdge)
  deriving Repr, DecidableEq

end Pattern

/-- A regular expression. -/
inductive Pattern where
  /-- Matches the empty text. -/
  | empty
  /-- Matches a text of one character or more. -/
  | literal (text : List Char)
  /-- Matches one character of a set, which may be meant as a set of bytes. -/
  | set (bytes : Bool) (characters : Pattern.CharacterSet)
  /-- Matches the empty text where a condition holds. -/
  | assertion ( assertion : Pattern.Assertion)
  /-- Matches a pattern several times, without a limit if there is no maximum. -/
  | repetition (greedy : Bool) (minimum : Nat) (maximum? : Option Nat) (repeated : Pattern)
  /-- Matches a pattern, as the group of an index. -/
  | group (index : Nat) (body : Pattern)
  /-- Matches patterns one after another. -/
  | sequence (parts : List Pattern)
  /-- Matches one of some patterns. -/
  | choice (branches : List Pattern)
  deriving Repr

namespace Pattern

instance : Inhabited Pattern := ⟨empty⟩

mutual

/-- Whether two patterns are the same. -/
def same : (left right : Pattern) → Bool
  | empty, empty => true
  | literal text, literal text' => text = text'
  | set bytes characters, set bytes' characters' =>
      bytes = bytes' && characters = characters'
  | assertion condition, assertion condition' => condition = condition'
  | repetition greedy minimum maximum? repeated,
      repetition greedy' minimum' maximum?' repeated' =>
        greedy = greedy' && minimum = minimum' && maximum? = maximum?' && repeated.same repeated'
  | group index body, group index' body' => index = index' && body.same body'
  | sequence parts, sequence parts' => sameAll parts parts'
  | choice branches, choice branches' => sameAll branches branches'
  | _, _ => false

/-- Whether two lists have the same patterns. -/
def sameAll : (left right : List Pattern) → Bool
  | [], [] => true
  | pattern :: rest, pattern' :: rest' => pattern.same pattern' && sameAll rest rest'
  | _, _ => false

end

/-- The number of bytes of a text. -/
def byteLength (text : List Char) : Nat :=
  text.foldl (fun length c => length + c.utf8Size) 0

/-- Adds two numbers, of which both have to be known. -/
def plus? (left right : Option Nat) : Option Nat :=
  match left, right with
  | some left, some right => some (left + right)
  | _, _ => none

/-- Picks one of two numbers, of which both have to be known. -/
def pick? (pick : Nat → Nat → Nat) (left right : Option Nat) : Option Nat :=
  match left, right with
  | some left, some right => some (pick left right)
  | _, _ => none

mutual

/-- The number of bytes of the shortest text that can match, if any can. -/
def minLength? : Pattern → Option Nat
  | empty | assertion _ => some 0
  | literal text => some (byteLength text)
  | set _ characters => characters.ranges.head?.map fun range => (Char.ofNat range.1).utf8Size
  | repetition _ minimum _ repeated => repeated.minLength?.map (· * minimum)
  | group _ body => body.minLength?
  | sequence parts => sumMinLength? parts
  | choice branches => leastMinLength? branches

/-- The number of bytes of the shortest texts that match one after another. -/
def sumMinLength? : List Pattern → Option Nat
  | [] => some 0
  | part :: rest => plus? part.minLength? (sumMinLength? rest)

/-- The number of bytes of the shortest text that can match one of some
patterns, all of which have to match some text. -/
def leastMinLength? : List Pattern → Option Nat
  | [] => none
  | [branch] => branch.minLength?
  | branch :: rest => pick? min branch.minLength? (leastMinLength? rest)

end

mutual

/-- The number of bytes of the longest text that can match, if there is one. -/
def maxLength? : Pattern → Option Nat
  | empty | assertion _ => some 0
  | literal text => some (byteLength text)
  | set _ characters => characters.ranges.getLast?.map fun range => (Char.ofNat range.2).utf8Size
  | repetition _ _ maximum? repeated =>
      match maximum?, repeated.maxLength? with
      | some maximum, some length => some (length * maximum)
      | _, _ => none
  | group _ body => body.maxLength?
  | sequence parts => sumMaxLength? parts
  | choice branches => greatestMaxLength? branches

/-- The number of bytes of the longest texts that match one after another. -/
def sumMaxLength? : List Pattern → Option Nat
  | [] => some 0
  | part :: rest => plus? part.maxLength? (sumMaxLength? rest)

/-- The number of bytes of the longest text that can match one of some
patterns. -/
def greatestMaxLength? : List Pattern → Option Nat
  | [] => none
  | [branch] => branch.maxLength?
  | branch :: rest => pick? max branch.maxLength? (greatestMaxLength? rest)

end

/-- Whether a pattern matches nothing but the empty text. -/
def isZeroWidth (pattern : Pattern) : Bool :=
  pattern.maxLength? = some 0

mutual

/-- Whether a pattern can be seen to match at the start of the text only. -/
def startsText : Pattern → Bool
  | assertion condition => condition = .textStart
  | repetition _ minimum _ repeated => 0 < minimum && repeated.startsText
  | group _ body => body.startsText
  | sequence parts => firstStartsText parts
  | choice branches => allStartText branches
  | _ => false

/-- Whether one of the parts up to the first that takes characters matches at
the start of the text only. -/
def firstStartsText : List Pattern → Bool
  | [] => false
  | part :: rest => part.startsText || (part.isZeroWidth && firstStartsText rest)

/-- Whether all of some patterns match at the start of the text only. -/
def allStartText : List Pattern → Bool
  | [] => true
  | branch :: rest => branch.startsText && allStartText rest

end

mutual

/-- Whether a pattern can be seen to match at the end of the text only. -/
def endsText : Pattern → Bool
  | assertion condition => condition = .textEnd
  | repetition _ minimum _ repeated => 0 < minimum && repeated.endsText
  | group _ body => body.endsText
  | sequence parts => lastEndsText parts
  | choice branches => allEndText branches
  | _ => false

/-- Whether one of the parts from the last that takes characters on matches at
the end of the text only. -/
def lastEndsText : List Pattern → Bool
  | [] => false
  | part :: rest => lastEndsText rest || (rest.all isZeroWidth && part.endsText)

/-- Whether all of some patterns match at the end of the text only. -/
def allEndText : List Pattern → Bool
  | [] => true
  | branch :: rest => branch.endsText && allEndText rest

end

/-- Matches nothing. -/
def never : Pattern :=
  set true .empty

/-- Matches one character of a set. -/
def ofSet (bytes : Bool) (characters : CharacterSet) : Pattern :=
  match characters.single? with
  | some c => literal [c]
  | none => if characters.ranges.isEmpty then never else set bytes characters

/-- A pattern several times. One that takes no characters is matched once at
most. -/
def repeatedBetween (repeated : Pattern) (greedy : Bool) (minimum : Nat)
    (maximum? : Option Nat) : Pattern :=
  let minimum := if repeated.isZeroWidth then min minimum 1 else minimum
  let maximum? :=
    if repeated.isZeroWidth then some (min (maximum?.getD 1) 1) else maximum?
  if maximum? = some 0 then empty
  else if minimum = 1 && maximum? = some 1 then repeated
  else repetition greedy minimum maximum? repeated

/-- The parts of a pattern that are matched one after another. -/
def parts : Pattern → List Pattern
  | empty => []
  | sequence parts => parts
  | pattern => [pattern]

/-- The patterns that a pattern is a choice between. -/
def branches : Pattern → List Pattern
  | choice branches => branches
  | pattern => [pattern]

/-- Puts a part before others. Texts beside each other become one. -/
def joinPart : Pattern → List Pattern → List Pattern
  | literal text, literal text' :: rest => literal (text ++ text') :: rest
  | part, rest => part :: rest

/-- Patterns one after another. -/
def ofParts (patterns : List Pattern) : Pattern :=
  match (patterns.flatMap parts).foldr joinPart [] with
  | [] => empty
  | [part] => part
  | parts => sequence parts

/-- The single character that a pattern matches, if it is a text of one. -/
def character? : Pattern → Option Char
  | literal [c] => some c
  | _ => none

/-- The set that a pattern matches one character of. -/
def characters? : Pattern → Option CharacterSet
  | set _ characters => some characters
  | _ => none

/-- The values that a function has for all elements of a list, if it has them. -/
def allValues? {α β : Type} (value? : α → Option β) : List α → Option (List β)
  | [] => some []
  | a :: rest =>
      match value? a, allValues? value? rest with
      | some value, some values => some (value :: values)
      | _, _ => none

/-- The set that a choice comes to if all branches are single characters, or if
all branches are sets. -/
def commonSet? (branches : List Pattern) : Option CharacterSet :=
  match allValues? character? branches with
  | some characters =>
      some (.ofRanges (characters.map fun c => (c.toNat, c.toNat)))
  | none => (allValues? characters? branches).map fun sets => .ofRanges (sets.flatMap (·.ranges))

/-- The parts that two sequences start with alike. -/
def commonStart : (left right : List Pattern) → List Pattern
  | part :: rest, part' :: rest' => if part.same part' then part :: commonStart rest rest' else []
  | _, _ => []

/-- The parts of a sequence, which is one of two parts or more. -/
def sequenceParts? : Pattern → Option (List Pattern)
  | sequence parts => some parts
  | _ => none

mutual

/-- The number of nodes of a pattern. -/
def size : Pattern → Nat
  | repetition _ _ _ repeated => repeated.size + 1
  | group _ body => body.size + 1
  | sequence parts => sizeAll parts + 1
  | choice branches => sizeAll branches + 1
  | _ => 1

/-- The number of nodes of some patterns. -/
def sizeAll : List Pattern → Nat
  | [] => 0
  | pattern :: rest => pattern.size + sizeAll rest

end

/-- A choice between patterns. What all branches start with is put before the
choice, which then is a choice between fewer nodes, so that `fuel` need not
exceed their number. -/
def choiceWithin : (fuel : Nat) → List Pattern → Pattern
  | fuel, patterns =>
      match patterns.flatMap branches with
      | [] => never
      | [branch] => branch
      | first :: others =>
          match commonSet? (first :: others), fuel with
          | some characters, _ => ofSet false characters
          | none, 0 => choice (first :: others)
          | none, fuel + 1 =>
              match allValues? sequenceParts? (first :: others) with
              | some (firstParts :: otherParts) =>
                  let start := otherParts.foldl commonStart firstParts
                  if start.isEmpty then choice (first :: others)
                  else
                    let rests := (firstParts :: otherParts).map fun parts =>
                      ofParts (parts.drop start.length)
                    ofParts (start ++ [choiceWithin fuel rests])
              | _ => choice (first :: others)

/-- A choice between patterns. -/
def ofBranches (patterns : List Pattern) : Pattern :=
  choiceWithin (sizeAll patterns) patterns

end Pattern

end EventFields

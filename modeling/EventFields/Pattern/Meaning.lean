import EventFields.Pattern.Parser

/-!
# What expressions stand for

An expression becomes a pattern under the flags that hold where it stands.
Flags that are set inside a group hold up to its end, in later branches too.
Without the flag for all characters, sets and conditions are about ASCII, and
what would match a part of a character is refused.
-/

namespace EventFields.Pattern

/-- The flags that hold at some point of a pattern. -/
structure Flags where
  ignoreCase : Bool := false
  multiLine : Bool := false
  dotMatchesNewline : Bool := false
  swapGreed : Bool := false
  unicode : Bool := true
  crlf : Bool := false
  deriving Repr, DecidableEq

namespace Flags

/-- The flags with one of them switched on or off. Whether blanks are ignored
matters to reading only. -/
def change (flags : Flags) : Flag × Bool → Flags
  | (.ignoreCase, switch) => { flags with ignoreCase := switch }
  | (.multiLine, switch) => { flags with multiLine := switch }
  | (.dotMatchesNewline, switch) => { flags with dotMatchesNewline := switch }
  | (.swapGreed, switch) => { flags with swapGreed := switch }
  | (.unicode, switch) => { flags with unicode := switch }
  | (.crlf, switch) => { flags with crlf := switch }
  | (.ignoreBlanks, _) => flags

/-- The flags after changes. -/
def changed (flags : Flags) (changes : FlagChanges) : Flags :=
  changes.foldl change flags

/-- A set with all letters that count the same, if case is ignored. -/
def folded (flags : Flags) (set : CharacterSet) : CharacterSet :=
  if !flags.ignoreCase then set
  else if flags.unicode then set.caseClosure
  else set.asciiCaseClosure

/-- A set or its complement. The complement of a set of ASCII characters has
bytes that are no characters unless the flag for all characters is set. -/
def negatedIf (flags : Flags) (negated : Bool) (set : CharacterSet) :
    Except Fault CharacterSet :=
  if !negated then .ok set
  else if flags.unicode then .ok set.complement
  else .error .notCharacters

/-- The character of a literal in a set. Without the flag for all characters it
has to be ASCII. -/
def literalCharacter (flags : Flags) (literal : Literal) : Except Fault Char :=
  if flags.unicode || literal.c.toNat < 0x80 then .ok literal.c else .error .notCharacters

/-- The pattern of a character that stands for itself. -/
def literalPattern (flags : Flags) (literal : Literal) : Except Fault Pattern :=
  let set := CharacterSet.single literal.c
  if !flags.unicode && literal.isByte && 0x80 ≤ literal.c.toNat then .error .notCharacters
  else if flags.unicode || literal.c.toNat < 0x80 then
    .ok (ofSet (!flags.unicode) (flags.folded set))
  else .ok (.literal [literal.c])

/-- The set of a shorthand. -/
def shorthandSet (flags : Flags) : Shorthand → CharacterSet
  | .digit => if flags.unicode then .digits else .range '0' '9'
  | .blank => if flags.unicode then .blanks else (asciiClass? "space").getD .empty
  | .word => if flags.unicode then .wordCharacters else (asciiClass? "word").getD .empty

/-- The characters that a dot stands for. -/
def dotSet (flags : Flags) : CharacterSet :=
  if flags.dotMatchesNewline then .all
  else if flags.crlf then ((CharacterSet.single '\n').union (.single '\r')).complement
  else (CharacterSet.single '\n').complement

/-- The condition that an anchor stands for. -/
def assertion (flags : Flags) : Anchor → Assertion
  | .lineStart => if flags.multiLine then .lineStart flags.crlf else .textStart
  | .lineEnd => if flags.multiLine then .lineEnd flags.crlf else .textEnd
  | .textStart => .textStart
  | .textEnd => .textEnd
  | .word edge => .word (!flags.unicode) edge

end Flags

namespace SetOperator

/-- The combination of two sets. -/
def apply : SetOperator → CharacterSet → CharacterSet → CharacterSet
  | intersection, left, right => left.intersection right
  | difference, left, right => left.difference right
  | symmetricDifference, left, right => left.symmetricDifference right

end SetOperator

namespace SetExpression

mutual

/-- The characters that an expression for a set stands for. -/
def characters (flags : Flags) : SetExpression → Except Fault CharacterSet
  | empty => .ok .empty
  | literal c => (flags.literalCharacter c).map .single
  | range first last => do
      return .range (← flags.literalCharacter first) (← flags.literalCharacter last)
  | ascii negated named => flags.negatedIf negated (flags.folded named)
  | property negated query =>
      if !flags.unicode then .error .notCharacters
      else
        match query.characters? with
        | some found => flags.negatedIf negated (flags.folded found)
        | none => .error .badProperty
  | shorthand negated name => flags.negatedIf negated (flags.shorthandSet name)
  | brackets negated content => do
      flags.negatedIf negated (flags.folded (← content.characters flags))
  | union items => charactersOfAll flags items
  | operation operator left right => do
      let left ← left.characters flags
      let right ← right.characters flags
      return operator.apply (flags.folded left) (flags.folded right)

/-- The characters of some sets together. -/
def charactersOfAll (flags : Flags) : List SetExpression → Except Fault CharacterSet
  | [] => .ok .empty
  | item :: rest => do
      let set ← item.characters flags
      let others ← charactersOfAll flags rest
      return set.union others

end

end SetExpression

namespace Expression

mutual

/-- The pattern that an expression stands for, and the flags after it. -/
def pattern (flags : Flags) : Expression → Except Fault (Pattern × Flags)
  | empty => .ok (.empty, flags)
  | .flags changes => .ok (.empty, flags.changed changes)
  | literal c => (flags.literalPattern c).map (·, flags)
  | dot =>
      if flags.unicode then .ok (ofSet false flags.dotSet, flags) else .error .notCharacters
  | anchor condition => .ok (.assertion (flags.assertion condition), flags)
  | set content =>
      (content.characters flags).map fun found => (ofSet (!flags.unicode) found, flags)
  | repetition greedy minimum maximum? repeated => do
      let (repeated, flags) ← repeated.pattern flags
      return (repeated.repeatedBetween (greedy != flags.swapGreed) minimum maximum?, flags)
  | group index? changes body => do
      let (body, _) ← body.pattern (flags.changed changes)
      return (match index? with | some index => .group index body | none => body, flags)
  | sequence parts => do
      let (parts, flags) ← patterns flags parts
      return (Pattern.ofParts parts, flags)
  | choice branches => do
      let (branches, flags) ← patterns flags branches
      return (Pattern.ofBranches branches, flags)

/-- The patterns of some expressions that are read in order. -/
def patterns (flags : Flags) : List Expression → Except Fault (List Pattern × Flags)
  | [] => .ok ([], flags)
  | expression :: rest => do
      let (pattern, flags) ← expression.pattern flags
      let (patterns, flags) ← patterns flags rest
      return (pattern :: patterns, flags)

end

end Expression

/-- Reads a pattern. -/
def parse (text : String) : Except Fault Pattern := do
  let expression ← Expression.parse text
  let (pattern, _) ← expression.pattern {}
  return pattern

end EventFields.Pattern

import EventFields.Pattern.Basic

/-!
# Expressions of patterns

An expression is the tree of the text of a pattern, before it is known what the
flags around it make of its parts.
-/

namespace EventFields.Pattern

/-- What flags inside a pattern switch on and off. -/
inductive Flag where
  | ignoreCase
  | multiLine
  | dotMatchesNewline
  | swapGreed
  | unicode
  | crlf
  | ignoreBlanks
  deriving Repr, DecidableEq

/-- Flags that are switched on or off, in order. -/
abbrev FlagChanges := List (Flag × Bool)

/-- Whether some changes switch a flag on or off. -/
def FlagChanges.value? (changes : FlagChanges) (flag : Flag) : Option Bool :=
  (changes.find? (·.1 = flag)).map Prod.snd

/-- A character that stands for itself. -/
structure Literal where
  c : Char
  /-- Whether it is written as one byte, in two hexadecimal digits. -/
  isByte : Bool
  deriving Repr, DecidableEq

/-- The sets that a backslash and a letter stand for. -/
inductive Shorthand where
  | digit
  | blank
  | word
  deriving Repr, DecidableEq

/-- How the sets before and after an operator are combined. -/
inductive SetOperator where
  | intersection
  | difference
  | symmetricDifference
  deriving Repr, DecidableEq

/-- A sign or an escape that stands for a condition on a place. -/
inductive Anchor where
  /-- A line starts or ends here, if lines are told apart, or else the text. -/
  | lineStart
  | lineEnd
  /-- The text starts or ends here. -/
  | textStart
  | textEnd
  | word (edge : WordEdge)
  deriving Repr, DecidableEq

/-- An expression for a set of characters. -/
inductive SetExpression where
  | empty
  | literal (character : Literal)
  /-- All characters from the first to the last. -/
  | range (first last : Literal)
  /-- A set of ASCII characters that has a name. -/
  | ascii (negated : Bool) (characters : CharacterSet)
  | property (negated : Bool) (query : PropertyQuery)
  | shorthand (negated : Bool) (name : Shorthand)
  | brackets (negated : Bool) (content : SetExpression)
  /-- Two sets or more beside each other. -/
  | union (items : List SetExpression)
  | operation (operator : SetOperator) (left right : SetExpression)

/-- An expression for a pattern. -/
inductive Expression where
  | empty
  | flags (changes : FlagChanges)
  | literal (character : Literal)
  | dot
  | anchor (condition : Anchor)
  | set (characters : SetExpression)
  /-- A repetition, without a limit if there is no maximum. -/
  | repetition (greedy : Bool) (minimum : Nat) (maximum? : Option Nat) (repeated : Expression)
  /-- A group that captures if it has an index. -/
  | group (index? : Option Nat) (changes : FlagChanges) (body : Expression)
  /-- Two parts or more after each other. -/
  | sequence (parts : List Expression)
  /-- Two branches or more to choose from. -/
  | choice (branches : List Expression)

namespace SetExpression

/-- Some sets beside each other. -/
def ofItems : List SetExpression → SetExpression
  | [] => empty
  | [item] => item
  | items => union items

mutual

/-- How deep an expression for a set is nested. -/
def depth : SetExpression → Nat
  | brackets _ content => content.depth + 1
  | union items => depthAll items + 1
  | operation _ left right => max left.depth right.depth + 1
  | _ => 0

/-- The depth of the deepest of some sets. -/
def depthAll : List SetExpression → Nat
  | [] => 0
  | item :: rest => max item.depth (depthAll rest)

end

end SetExpression

namespace Expression

/-- Some expressions after each other. -/
def ofParts : List Expression → Expression
  | [] => empty
  | [part] => part
  | parts => sequence parts

/-- Some expressions to choose from. -/
def ofBranches : List Expression → Expression
  | [] => empty
  | [branch] => branch
  | branches => choice branches

mutual

/-- How deep an expression is nested. -/
def depth : Expression → Nat
  | set characters => characters.depth
  | repetition _ _ _ repeated => repeated.depth + 1
  | group _ _ body => body.depth + 1
  | sequence parts => depthAll parts + 1
  | choice branches => depthAll branches + 1
  | _ => 0

/-- The depth of the deepest of some expressions. -/
def depthAll : List Expression → Nat
  | [] => 0
  | expression :: rest => max expression.depth (depthAll rest)

end

end Expression

end EventFields.Pattern

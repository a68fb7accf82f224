import EventFields.Pattern.Expression
import EventFields.Text.Alphanumeric
import EventFields.Text.Blank
import EventFields.Text.Hexadecimal

/-!
# Reading expressions

The text of a pattern is read part by part; a stack of open groups turns the
parts into an expression. Inside brackets a stack of open sets does the same.
While blanks are ignored, they may stand between the characters of most parts,
and so may comments from a hash sign to the end of the line.
-/

namespace EventFields.Pattern

/-- Why a text is not a pattern. -/
inductive Fault where
  /-- A group, set or count is not closed, or not opened. -/
  | unbalanced
  /-- There is nothing to repeat. -/
  | nothingToRepeat
  /-- A count is missing, malformed or too large, or its limits are reversed. -/
  | badCount
  /-- The limits of a range are reversed or not characters. -/
  | badRange
  /-- An escape is not known. -/
  | badEscape
  /-- A group starts in a way that is not known. -/
  | badGroup
  /-- The name of a group is malformed or taken. -/
  | badName
  /-- A property is not known. -/
  | badProperty
  /-- Something else than whole characters would be matched. -/
  | notCharacters
  /-- Parts are nested too deep. -/
  | tooDeep
  /-- The automaton for some patterns would be too large. -/
  | tooLarge
  deriving Repr, DecidableEq

/-- The wording of a fault. -/
def Fault.message : Fault → String
  | unbalanced => "a group, set or count is not balanced"
  | nothingToRepeat => "there is nothing to repeat"
  | badCount => "a count of repetitions is not valid"
  | badRange => "a range of characters is not valid"
  | badEscape => "an escape is not known"
  | badGroup => "a group starts in an unknown way"
  | badName => "the name of a group is not valid"
  | badProperty => "a property is not known"
  | notCharacters => "more than whole characters would be matched"
  | tooDeep => "parts are nested too deep"
  | tooLarge => "the patterns are too large"

/-- The text after blanks and comments, of which one may be open. -/
def skipBlanks : (inComment : Bool) → List Char → List Char
  | _, [] => []
  | true, c :: rest => skipBlanks (c ≠ '\n') rest
  | false, c :: rest =>
      if Text.isBlank c then skipBlanks false rest
      else if c = '#' then skipBlanks true rest
      else c :: rest

/-- The text after blanks and comments if they are ignored, or else all of it. -/
def skip (ignoreBlanks : Bool) (input : List Char) : List Char :=
  if ignoreBlanks then skipBlanks false input else input

/-- The characters at the front that are wanted, without what may be skipped
after each of them, and the text from there on. Every step takes a character,
so that `fuel` need not exceed their number. -/
def readWhile (ignoreBlanks : Bool) (wanted : Char → Bool) :
    (fuel : Nat) → List Char → List Char × List Char
  | 0, input => ([], input)
  | _, [] => ([], [])
  | fuel + 1, c :: rest =>
      if wanted c then
        let (taken, rest) := readWhile ignoreBlanks wanted fuel (skip ignoreBlanks rest)
        (c :: taken, rest)
      else ([], c :: rest)

/-- The characters at the front that are wanted, and the text after them. -/
def span (ignoreBlanks : Bool) (wanted : Char → Bool) (input : List Char) :
    List Char × List Char :=
  readWhile ignoreBlanks wanted input.length input

/-- The next characters, with blanks skipped before each of them. -/
def readFixed (ignoreBlanks : Bool) : (width : Nat) → List Char → Option (List Char × List Char)
  | 0, input => some ([], input)
  | width + 1, input =>
      match skip ignoreBlanks input with
      | [] => none
      | c :: rest =>
          (readFixed ignoreBlanks width rest).map fun (taken, rest) => (c :: taken, rest)

/-- Reads a code point of `width` digits, or one between braces. -/
def readCode (ignoreBlanks : Bool) (width : Nat) (input : List Char) :
    Except Fault (Literal × List Char) :=
  match skip ignoreBlanks input with
  | '\x7b' :: rest =>
      let (digits, rest) := span ignoreBlanks (· ≠ '\x7d') (skip ignoreBlanks rest)
      match Text.characterOfHex? digits, rest with
      | some c, _ :: rest => .ok (⟨c, false⟩, rest)
      | _, _ => .error .badEscape
  | rest =>
      match readFixed ignoreBlanks width rest with
      | none => .error .badEscape
      | some (digits, rest) =>
          match Text.characterOfHex? digits with
          | some c => .ok (⟨c, width = 2⟩, rest)
          | none => .error .badEscape

/-- The text before a mark and the text after it, if there is one. -/
def splitAt? (mark : List Char) : List Char → Option (List Char × List Char)
  | [] => none
  | c :: rest =>
      if mark.isPrefixOf (c :: rest) then some ([], (c :: rest).drop mark.length)
      else (splitAt? mark rest).map fun (before, after) => (c :: before, after)

/-- The question that stands between the braces after a property escape. -/
def propertyQuery (name : List Char) : PropertyQuery :=
  match splitAt? ['!', '='] name <|> splitAt? [':'] name <|> splitAt? ['='] name with
  | some (name, value) => .valued name value
  | none => .named name

/-- Reads a property: one letter, or a name between braces. -/
def readProperty (ignoreBlanks negated : Bool) (input : List Char) :
    Except Fault (SetExpression × List Char) :=
  match skip ignoreBlanks input with
  | [] | '\\' :: _ => .error .badEscape
  | '\x7b' :: rest =>
      match span ignoreBlanks (· ≠ '\x7d') (skip ignoreBlanks rest) with
      | (name, _ :: rest) => .ok (.property negated (propertyQuery name), rest)
      | _ => .error .badEscape
  | letter :: rest => .ok (.property negated (.named [letter]), rest)

/-- What an escape stands for. -/
inductive Escape where
  | literal (character : Literal)
  | set (characters : SetExpression)
  | anchor (condition : Anchor)

/-- Whether a backslash before the character makes it stand for itself. -/
def isEscapable (c : Char) : Bool :=
  c.toNat < 0x80 && !c.isAlphanum && c ≠ '<' && c ≠ '>'

/-- The edge of a word with a given name. -/
def wordEdge? (name : List Char) : Option WordEdge :=
  if name = "start".toList then some .start
  else if name = "end".toList then some .stop
  else if name = "start-half".toList then some .startHalf
  else if name = "end-half".toList then some .stopHalf
  else none

/-- Reads what follows the letter of a word boundary: the name of an edge
between braces, if there is one. Anything else between braces is left to be
read as a count. -/
def readWordEdge (ignoreBlanks : Bool) (input : List Char) :
    Except Fault (Escape × List Char) :=
  let isNameCharacter := fun c : Char => c.isAlpha || c = '-'
  match input with
  | '\x7b' :: rest =>
      match skip ignoreBlanks rest with
      | [] => .error .badEscape
      | c :: rest =>
          if isNameCharacter c then
            let (name, rest) := span ignoreBlanks isNameCharacter (c :: rest)
            match wordEdge? name, rest with
            | some edge, '\x7d' :: rest => .ok (.anchor (.word edge), rest)
            | _, _ => .error .badEscape
          else .ok (.anchor (.word .boundary), input)
  | _ => .ok (.anchor (.word .boundary), input)

/-- The escapes of one letter or sign. -/
def simpleEscape? (c : Char) : Option Escape :=
  match c with
  | 'd' => some (.set (.shorthand false .digit))
  | 'D' => some (.set (.shorthand true .digit))
  | 's' => some (.set (.shorthand false .blank))
  | 'S' => some (.set (.shorthand true .blank))
  | 'w' => some (.set (.shorthand false .word))
  | 'W' => some (.set (.shorthand true .word))
  | 'a' => some (.literal ⟨'\x07', false⟩)
  | 'f' => some (.literal ⟨'\x0c', false⟩)
  | 't' => some (.literal ⟨'\t', false⟩)
  | 'n' => some (.literal ⟨'\n', false⟩)
  | 'r' => some (.literal ⟨'\r', false⟩)
  | 'v' => some (.literal ⟨'\x0b', false⟩)
  | 'A' => some (.anchor .textStart)
  | 'z' => some (.anchor .textEnd)
  | 'B' => some (.anchor (.word .noBoundary))
  | '<' => some (.anchor (.word .start))
  | '>' => some (.anchor (.word .stop))
  | _ => if isEscapable c then some (.literal ⟨c, false⟩) else none

/-- Reads an escape after its backslash. -/
def readEscape (ignoreBlanks : Bool) : List Char → Except Fault (Escape × List Char)
  | [] => .error .badEscape
  | 'x' :: rest => (readCode ignoreBlanks 2 rest).map fun (c, rest) => (.literal c, rest)
  | 'u' :: rest => (readCode ignoreBlanks 4 rest).map fun (c, rest) => (.literal c, rest)
  | 'U' :: rest => (readCode ignoreBlanks 8 rest).map fun (c, rest) => (.literal c, rest)
  | 'p' :: rest => (readProperty ignoreBlanks false rest).map fun (characters, rest) =>
      (.set characters, rest)
  | 'P' :: rest => (readProperty ignoreBlanks true rest).map fun (characters, rest) =>
      (.set characters, rest)
  | 'b' :: rest => readWordEdge ignoreBlanks rest
  | c :: rest =>
      match simpleEscape? c with
      | some escape => .ok (escape, rest)
      | none => .error .badEscape

/-- The deepest nesting of parts that is allowed. -/
def maxDepth : Nat := 250

/-- A set whose closing bracket has not been read. -/
structure OpenSet where
  negated : Bool
  /-- The set before the last operator, with that operator. -/
  pending? : Option (SetExpression × SetOperator) := none
  /-- What has been read since the last operator, the last item first. -/
  items : List SetExpression := []

namespace OpenSet

/-- The open set with one more item. -/
def add (current : OpenSet) (item : SetExpression) : OpenSet :=
  { current with items := item :: current.items }

/-- What has been read, without regard to negation. -/
def combined (current : OpenSet) : SetExpression :=
  let last := SetExpression.ofItems current.items.reverse
  match current.pending? with
  | some (first, operator) => .operation operator first last
  | none => last

/-- The open set after an operator. -/
def operate (current : OpenSet) (operator : SetOperator) : OpenSet :=
  { negated := current.negated, pending? := some (current.combined, operator) }

/-- The set once it is closed. -/
def closed (current : OpenSet) : SetExpression :=
  .brackets current.negated current.combined

/-- Reads what may follow an opening bracket: a caret, hyphens, and a closing
bracket that stands for itself. -/
def start (ignoreBlanks : Bool) (input : List Char) : OpenSet × List Char :=
  let (negated, input) :=
    match skip ignoreBlanks input with
    | '^' :: rest => (true, skip ignoreBlanks rest)
    | input => (false, input)
  let (hyphens, input) := span ignoreBlanks (· = '-') input
  let items := hyphens.map fun c => SetExpression.literal ⟨c, false⟩
  match items, input with
  | [], ']' :: rest => ({ negated, items := [.literal ⟨']', false⟩] }, rest)
  | _, _ => ({ negated, items }, input)

end OpenSet

/-- The ASCII characters of a set with a given name. -/
def asciiClass? (name : String) : Option CharacterSet :=
  let upper := ('A', 'Z')
  let lower := ('a', 'z')
  let digit := ('0', '9')
  let ranges? : Option (List (Char × Char)) :=
    match name with
    | "alnum" => some [digit, upper, lower]
    | "alpha" => some [upper, lower]
    | "ascii" => some [('\x00', '\x7f')]
    | "blank" => some [('\t', '\t'), (' ', ' ')]
    | "cntrl" => some [('\x00', '\x1f'), ('\x7f', '\x7f')]
    | "digit" => some [digit]
    | "graph" => some [('!', '~')]
    | "lower" => some [lower]
    | "print" => some [(' ', '~')]
    | "punct" => some [('!', '/'), (':', '@'), ('[', '\x60'), ('\x7b', '~')]
    | "space" => some [('\t', '\r'), (' ', ' ')]
    | "upper" => some [upper]
    | "word" => some [digit, upper, ('_', '_'), lower]
    | "xdigit" => some [digit, ('A', 'F'), ('a', 'f')]
    | _ => none
  ranges?.map fun ranges => .ofRanges (ranges.map fun range => (range.1.toNat, range.2.toNat))

/-- Reads the name of an ASCII set between colons, after its opening bracket. -/
def readAsciiClass? (input : List Char) : Option (SetExpression × List Char) :=
  match input with
  | ':' :: rest =>
      let (negated, rest) :=
        match rest with
        | '^' :: rest => (true, rest)
        | _ => (false, rest)
      match asciiClass? (String.ofList (rest.takeWhile (· ≠ ':'))), rest.dropWhile (· ≠ ':') with
      | some characters, ':' :: ']' :: rest => some (.ascii negated characters, rest)
      | _, _ => none
  | _ => none

/-- Reads one character or escape inside brackets. -/
def readSetItem (ignoreBlanks : Bool) : List Char → Except Fault (Escape × List Char)
  | [] => .error .unbalanced
  | '\\' :: rest => readEscape ignoreBlanks rest
  | c :: rest => .ok (.literal ⟨c, false⟩, rest)

/-- The first character after a hyphen that counts. After a hash sign it is the
first one that is not blank, as if no comment could end. -/
def peek? (ignoreBlanks : Bool) (input : List Char) : Option Char :=
  if ignoreBlanks then
    match input.filter fun c => !Text.isBlank c with
    | [] | ['#'] => input.head?
    | '#' :: c :: _ => some c
    | c :: _ => some c
  else input.head?

/-- Reads a character, an escape or a range inside brackets. -/
def readSetRange (ignoreBlanks : Bool) (input : List Char) :
    Except Fault (SetExpression × List Char) :=
  match readSetItem ignoreBlanks input with
  | .error fault => .error fault
  | .ok (first, rest) =>
      let rest := skip ignoreBlanks rest
      let isRange :=
        match rest with
        | '-' :: rest =>
            peek? ignoreBlanks rest ≠ some ']' && peek? ignoreBlanks rest ≠ some '-'
        | _ => false
      if isRange then
        match first, readSetItem ignoreBlanks (skip ignoreBlanks (rest.drop 1)) with
        | .literal first, .ok (.literal last, rest) =>
            if first.c ≤ last.c then .ok (.range first last, rest) else .error .badRange
        | _, _ => .error .badRange
      else
        match first with
        | .literal c => .ok (.literal c, rest)
        | .set characters => .ok (characters, rest)
        | .anchor _ => .error .badEscape

/-- Reads what stands between brackets, inside open sets around it. Every step
takes a character, so that `fuel` need not exceed their number. -/
def readSet (ignoreBlanks : Bool) : (fuel : Nat) → (current : OpenSet) →
    (outer : List OpenSet) → List Char → Except Fault (SetExpression × List Char)
  | 0, _, _, _ => .error .unbalanced
  | fuel + 1, current, outer, input =>
      match skip ignoreBlanks input with
      | [] => .error .unbalanced
      | '[' :: rest =>
          match readAsciiClass? rest with
          | some (item, rest) => readSet ignoreBlanks fuel (current.add item) outer rest
          | none =>
              if maxDepth < outer.length then .error .tooDeep
              else
                let (opened, rest) := OpenSet.start ignoreBlanks rest
                readSet ignoreBlanks fuel opened (current :: outer) rest
      | ']' :: rest =>
          match outer with
          | [] => .ok (current.closed, rest)
          | enclosing :: outer =>
              readSet ignoreBlanks fuel (enclosing.add current.closed) outer rest
      | '&' :: '&' :: rest => readSet ignoreBlanks fuel (current.operate .intersection) outer rest
      | '-' :: '-' :: rest => readSet ignoreBlanks fuel (current.operate .difference) outer rest
      | '~' :: '~' :: rest =>
          readSet ignoreBlanks fuel (current.operate .symmetricDifference) outer rest
      | input =>
          match readSetRange ignoreBlanks input with
          | .error fault => .error fault
          | .ok (item, rest) => readSet ignoreBlanks fuel (current.add item) outer rest

/-- Reads a set after its opening bracket. -/
def readBrackets (ignoreBlanks : Bool) (input : List Char) :
    Except Fault (SetExpression × List Char) :=
  let (opened, rest) := OpenSet.start ignoreBlanks input
  readSet ignoreBlanks (input.length + 1) opened [] rest

/-- Reads a number that fits into 32 bits, and the blanks around it. -/
def readNumber (ignoreBlanks : Bool) (input : List Char) : Except Fault (Nat × List Char) :=
  let (digits, rest) := span ignoreBlanks Char.isDigit (Text.trimStart input)
  let number := digits.foldl (fun number c => number * 10 + (c.toNat - '0'.toNat)) 0
  if digits.isEmpty || Nat.pow 2 32 ≤ number then .error .badCount
  else .ok (number, skip ignoreBlanks (Text.trimStart rest))

/-- Reads the numbers of a count after its opening brace, with the brace at its
end: the fewest repetitions, and the most, if there is a limit. -/
def readCount (ignoreBlanks : Bool) (input : List Char) :
    Except Fault ((Nat × Option Nat) × List Char) :=
  match readNumber ignoreBlanks (skip ignoreBlanks input) with
  | .error fault => .error fault
  | .ok (minimum, '\x7d' :: rest) => .ok ((minimum, some minimum), rest)
  | .ok (minimum, ',' :: rest) =>
      match skip ignoreBlanks rest with
      | '\x7d' :: rest => .ok ((minimum, none), rest)
      | rest =>
          match readNumber ignoreBlanks rest with
          | .ok (maximum, '\x7d' :: rest) =>
              if minimum ≤ maximum then .ok ((minimum, some maximum), rest)
              else .error .badCount
          | _ => .error .badCount
  | .ok _ => .error .badCount

/-- The flag of a letter. -/
def flag? : Char → Option Flag
  | 'i' => some .ignoreCase
  | 'm' => some .multiLine
  | 's' => some .dotMatchesNewline
  | 'U' => some .swapGreed
  | 'u' => some .unicode
  | 'R' => some .crlf
  | 'x' => some .ignoreBlanks
  | _ => none

/-- Reads flags up to a colon or a closing parenthesis, which is returned. Every
flag stands there once at most; one hyphen may stand before some of them. -/
def readFlags (switch : Bool) (changes : FlagChanges) :
    List Char → Except Fault (FlagChanges × Char × List Char)
  | [] => .error .badGroup
  | '-' :: c :: rest =>
      if !switch || c = ':' || c = ')' then .error .badGroup
      else readFlags false changes (c :: rest)
  | c :: rest =>
      if c = ':' || c = ')' then .ok (changes, c, rest)
      else
        match flag? c with
        | none => .error .badGroup
        | some flag =>
            if (changes.value? flag).isSome then .error .badGroup
            else readFlags switch (changes ++ [(flag, switch)]) rest

/-- Whether a character may stand in the name of a group, or start it. -/
def isNameCharacter (first : Bool) (c : Char) : Bool :=
  if first then c = '_' || Text.isAlphabetic c
  else c = '_' || c = '.' || c = '[' || c = ']' || Text.isAlphanumeric c

/-- Reads the name of a group, and the bracket after it. -/
def readName (input : List Char) : Except Fault (List Char × List Char) :=
  match input.takeWhile (· ≠ '>'), input.dropWhile (· ≠ '>') with
  | first :: others, _ :: rest =>
      if isNameCharacter true first && others.all (isNameCharacter false) then
        .ok (first :: others, rest)
      else .error .badName
  | _, _ => .error .badName

/-- The branches of a group that have been read so far. -/
structure OpenBranches where
  /-- The branches before the last bar, the last one first. -/
  branches : List Expression := []
  /-- The parts after the last bar, the last one first. -/
  parts : List Expression := []

namespace OpenBranches

/-- The branches with one more part. -/
def add (opened : OpenBranches) (part : Expression) : OpenBranches :=
  { opened with parts := part :: opened.parts }

/-- The branches after a bar. -/
def bar (opened : OpenBranches) : OpenBranches :=
  { branches := .ofParts opened.parts.reverse :: opened.branches }

/-- The expression of the branches. -/
def closed (opened : OpenBranches) : Expression :=
  .ofBranches (.ofParts opened.parts.reverse :: opened.branches).reverse

end OpenBranches

/-- A group whose closing parenthesis has not been read. -/
structure OpenGroup where
  index? : Option Nat
  changes : FlagChanges
  /-- Whether blanks are ignored again after the group. -/
  ignoreBlanks : Bool
  /-- What stands before the group. -/
  before : OpenBranches

/-- A pattern that is being read. -/
structure Reading where
  ignoreBlanks : Bool := false
  /-- The number of groups that capture. -/
  captures : Nat := 0
  /-- The names of groups. -/
  names : List (List Char) := []
  current : OpenBranches := {}
  outer : List OpenGroup := []

namespace Reading

/-- The reading with one more part. -/
def add (reading : Reading) (part : Expression) : Reading :=
  { reading with current := reading.current.add part }

/-- The reading inside a group that has been opened. -/
def openGroup (reading : Reading) (index? : Option Nat) (changes : FlagChanges) : Reading :=
  let opened : OpenGroup :=
    { index?, changes, ignoreBlanks := reading.ignoreBlanks, before := reading.current }
  { reading with
    ignoreBlanks := (changes.value? .ignoreBlanks).getD reading.ignoreBlanks
    current := {}
    outer := opened :: reading.outer }

/-- The reading inside a group that captures. -/
def openCapture (reading : Reading) : Reading :=
  { reading.openGroup (some (reading.captures + 1)) [] with captures := reading.captures + 1 }

/-- The reading after a closing parenthesis. -/
def closeGroup (reading : Reading) : Except Fault Reading :=
  match reading.outer with
  | [] => .error .unbalanced
  | opened :: outer =>
      .ok { reading with
        ignoreBlanks := opened.ignoreBlanks
        current := opened.before.add (.group opened.index? opened.changes reading.current.closed)
        outer }

/-- The reading after a repetition of its last part. -/
def repeatLast (reading : Reading) (greedy : Bool) (minimum : Nat) (maximum? : Option Nat) :
    Except Fault Reading :=
  match reading.current.parts with
  | [] | .flags _ :: _ | .empty :: _ => .error .nothingToRepeat
  | part :: parts =>
      .ok { reading with
        current.parts := .repetition greedy minimum maximum? part :: parts }

/-- Reads what follows an opening parenthesis. -/
def readGroup (reading : Reading) (input : List Char) : Except Fault (Reading × List Char) :=
  if maxDepth < reading.outer.length then .error .tooDeep
  else
    let named := fun input => do
      let (name, rest) ← readName input
      if reading.names.contains name then throw .badName
      return ({ reading.openCapture with names := name :: reading.names }, rest)
    match skip reading.ignoreBlanks input with
    | '?' :: '=' :: _ | '?' :: '!' :: _ => .error .badGroup
    | '?' :: '<' :: '=' :: _ | '?' :: '<' :: '!' :: _ => .error .badGroup
    | '?' :: '<' :: rest => named rest
    | '?' :: 'P' :: '<' :: rest => named rest
    | '?' :: rest =>
        match readFlags true [] rest with
        | .error fault => .error fault
        | .ok (changes, ':', rest) => .ok (reading.openGroup none changes, rest)
        | .ok ([], _, _) => .error .nothingToRepeat
        | .ok (changes, _, rest) =>
            let ignoreBlanks := (changes.value? .ignoreBlanks).getD reading.ignoreBlanks
            .ok ({ reading.add (.flags changes) with ignoreBlanks }, rest)
    | rest => .ok (reading.openCapture, rest)

/-- Reads a repetition after its sign. A question mark makes it lazy. -/
def readRepetition (reading : Reading) (minimum : Nat) (maximum? : Option Nat)
    (input : List Char) : Except Fault (Reading × List Char) :=
  match input with
  | '?' :: rest => (reading.repeatLast false minimum maximum?).map (·, rest)
  | _ => (reading.repeatLast true minimum maximum?).map (·, input)

/-- Reads one part, which starts with a given character. -/
def step (reading : Reading) (c : Char) (rest : List Char) :
    Except Fault (Reading × List Char) :=
  match c with
  | '(' => reading.readGroup rest
  | ')' => reading.closeGroup.map (·, rest)
  | '|' => .ok ({ reading with current := reading.current.bar }, rest)
  | '[' => (readBrackets reading.ignoreBlanks rest).map fun (characters, rest) =>
      (reading.add (.set characters), rest)
  | '?' => reading.readRepetition 0 (some 1) rest
  | '*' => reading.readRepetition 0 none rest
  | '+' => reading.readRepetition 1 none rest
  | '\x7b' =>
      match readCount reading.ignoreBlanks rest with
      | .error fault => .error fault
      | .ok ((minimum, maximum?), rest) =>
          reading.readRepetition minimum maximum? (skip reading.ignoreBlanks rest)
  | '.' => .ok (reading.add .dot, rest)
  | '^' => .ok (reading.add (.anchor .lineStart), rest)
  | '$' => .ok (reading.add (.anchor .lineEnd), rest)
  | '\\' =>
      (readEscape reading.ignoreBlanks rest).map fun (escape, rest) =>
        match escape with
        | .literal c => (reading.add (.literal c), rest)
        | .set characters => (reading.add (.set characters), rest)
        | .anchor condition => (reading.add (.anchor condition), rest)
  | c => .ok (reading.add (.literal ⟨c, false⟩), rest)

/-- Reads parts up to the end of the text. Every part takes a character, so that
`fuel` need not exceed their number. -/
def readAll : (fuel : Nat) → Reading → List Char → Except Fault Reading
  | fuel, reading, input =>
      match skip reading.ignoreBlanks input, fuel with
      | [], _ => .ok reading
      | _, 0 => .error .unbalanced
      | c :: rest, fuel + 1 =>
          match reading.step c rest with
          | .error fault => .error fault
          | .ok (reading, rest) => readAll fuel reading rest

end Reading

/-- Reads the expression of a pattern. -/
def Expression.parse (text : String) : Except Fault Expression :=
  match Reading.readAll text.length {} text.toList with
  | .error fault => .error fault
  | .ok reading =>
      let expression := reading.current.closed
      if !reading.outer.isEmpty then .error .unbalanced
      else if maxDepth < expression.depth then .error .tooDeep
      else .ok expression

end EventFields.Pattern

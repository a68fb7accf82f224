import EventFields.Pattern.Basic
import EventFields.Pattern.ByteRange
import Std.Data.HashMap

/-!
# The extent of automata

Patterns are searched for by two automata that read a text byte by byte, one of
them backwards. This module tells how much memory such an automaton takes, state
by state, without building its links. A state is numbered by the states before
it, and that matters to the sets of characters beyond ASCII: they share states
through a table of limited size in which a state may take the place of another.
-/

namespace EventFields.Pattern

/-- The size of an automaton: the number of its states, and of its bytes. -/
structure Extent where
  states : Nat := 0
  bytes : Nat := 0
  deriving Repr, DecidableEq

namespace Extent

/-- The most bytes that an automaton may take. -/
def limit : Nat := 10 * 1024 * 1024

/-- The extent with more bytes. -/
def addBytes (extent : Extent) (bytes : Nat) : Extent :=
  { extent with bytes := extent.bytes + bytes }

/-- The extent with more states that have no lists of their own. -/
def addStates (extent : Extent) (count : Nat) : Extent :=
  ⟨extent.states + count, extent.bytes + 32 * count⟩

/-- The extent with a state that branches in a number of ways. -/
def addFork (extent : Extent) (ways : Nat) : Extent :=
  (extent.addStates 1).addBytes (4 * ways)

/-- The extent with a state that has some ranges of bytes to go on by. -/
def addRanges (extent : Extent) (ranges : Nat) : Extent :=
  (extent.addStates 1).addBytes (8 * ranges)

/-- The extent after a step that is taken a number of times, or until the limit
is passed. -/
def repeated (step : Extent → Extent) : (count : Nat) → Extent → Extent
  | 0, extent => extent
  | count + 1, extent =>
      if limit < extent.bytes then extent else repeated step count (step extent)

/-- The extent after a step that is taken a number of times. A uniform step adds
the same to every extent. -/
def times (uniform : Bool) (step : Extent → Extent) (count : Nat) (extent : Extent) : Extent :=
  if uniform then
    let added := step {}
    ⟨extent.states + count * added.states, extent.bytes + count * added.bytes⟩
  else repeated step count extent

end Extent

/-- A link to a state by a range of bytes. -/
structure Link where
  bytes : ByteRange
  target : Nat
  deriving DecidableEq

/-- The place of a list of numbers in a table, by a hash over the numbers. -/
def slot (tableSize : UInt64) (numbers : List Nat) : UInt64 :=
  numbers.foldl (fun hash number => (hash ^^^ number.toUInt64) * 1099511628211)
    14695981039346656037 % tableSize

/-- The states for a set of characters that have been made so far, with a table
of those that can be shared. -/
structure SharedStates (α : Type) where
  extent : Extent
  table : Std.HashMap UInt64 (α × Nat) := {}

namespace SharedStates

/-- The number of the state that is described by a key: one that is shared, or
else a new one, which takes a place in the table. -/
def find {α : Type} [DecidableEq α] (shared : SharedStates α) (place : UInt64) (key : α)
    (make : Extent → Extent) : Nat × SharedStates α :=
  let made := (shared.extent.states, ⟨make shared.extent,
    shared.table.insert place (key, shared.extent.states)⟩)
  match shared.table[place]? with
  | some (key', state) => if key' = key then (state, shared) else made
  | none => made

end SharedStates

/-- A state to which links can still be added: its links, and the bytes of its
last one, whose target is not known yet. -/
structure OpenState where
  links : List Link := []
  last? : Option ByteRange := none

namespace OpenState

/-- The links of a state once the target of the last one is known. -/
def closed (state : OpenState) (target : Nat) : List Link :=
  match state.last? with
  | some bytes => state.links ++ [⟨bytes, target⟩]
  | none => state.links

end OpenState

/-- The state with some links. Equal states are one. -/
def stateOfLinks (links : List Link) (shared : SharedStates (List Link)) :
    Nat × SharedStates (List Link) :=
  let place := slot 10000 (links.flatMap fun link =>
    [link.bytes.first, link.bytes.last, link.target])
  shared.find place links (·.addRanges links.length)

/-- Closes open states, of which each is the target of the last link of the one
before, the last one of them leading to a final state. -/
def closeStates (final : Nat) :
    List OpenState → SharedStates (List Link) → Nat × SharedStates (List Link)
  | [], shared => (final, shared)
  | state :: deeper, shared =>
      let (target, shared) := closeStates final deeper shared
      stateOfLinks (state.closed target) shared

/-- Adds a byte sequence, which comes after those that have been added, to open
states. States that the sequence does not go through are closed. -/
def addSequence (final : Nat) :
    List OpenState → List ByteRange → SharedStates (List Link) →
      List OpenState × SharedStates (List Link)
  | [], ranges, shared => (ranges.map fun bytes => { last? := some bytes }, shared)
  | states, [], shared => (states, shared)
  | state :: deeper, bytes :: ranges, shared =>
      if state.last? = some bytes then
        let (deeper, shared) := addSequence final deeper ranges shared
        (state :: deeper, shared)
      else
        let (target, shared) := closeStates final deeper shared
        ({ links := state.closed target, last? := some bytes } ::
          ranges.map fun bytes => { last? := some bytes }, shared)

/-- The extent with the states for byte sequences in ascending order. -/
def forwardExtent (sequences : List (List ByteRange)) (extent : Extent) : Extent :=
  let final := extent.states
  let start : List OpenState × SharedStates (List Link) := ([{}], ⟨extent.addStates 1, {}⟩)
  let (opened, shared) := sequences.foldl
    (fun (opened, shared) ranges => addSequence final opened ranges shared) start
  (closeStates final opened shared).2.extent

/-- The states for a byte sequence that is read backwards, up to a final one. -/
def addBackwards (target : Nat) :
    List ByteRange → SharedStates Link → SharedStates Link
  | [], shared => shared
  | bytes :: ranges, shared =>
      let place := slot 1000 [target, bytes.first, bytes.last]
      let (state, shared) := shared.find place ⟨bytes, target⟩ (·.addStates 1)
      addBackwards state ranges shared

/-- The extent with the states for byte sequences that are read backwards. -/
def backwardExtent (sequences : List (List ByteRange)) (extent : Extent) : Extent :=
  let final := extent.states + 1
  let shared := sequences.foldl (fun shared ranges => addBackwards final ranges shared)
    ⟨extent.addStates 2, {}⟩
  shared.extent.addBytes (4 * sequences.length)

/-- The extent with the states for a set of characters. -/
def setExtent (backward : Bool) (set : CharacterSet) (extent : Extent) : Extent :=
  if set.isAscii then (extent.addStates 1).addRanges set.ranges.length
  else if backward then backwardExtent set.byteSequences extent
  else forwardExtent set.byteSequences extent

/-- The bytes of a text in UTF-8. -/
def textBytes (text : List Char) : List Nat :=
  text.flatMap fun c => ByteRange.bytes c.toNat

/-- Byte sequences between those that are empty: the part before the first
empty one, and the parts after each of them. -/
def splitAtEmpty : List (List Nat) → List (List (Nat × List Nat))
  | [] => [[]]
  | [] :: rest => [] :: splitAtEmpty rest
  | (byte :: bytes) :: rest =>
      match splitAtEmpty rest with
      | [] => [[(byte, bytes)]]
      | part :: parts => ((byte, bytes) :: part) :: parts

/-- Byte sequences by their first bytes, which are dropped. -/
def groupByFirst : List (Nat × List Nat) → List (Nat × List (List Nat))
  | [] => []
  | (byte, bytes) :: rest =>
      let groups := groupByFirst rest
      match groups.find? (·.1 = byte) with
      | some (_, sequences) =>
          (byte, bytes :: sequences) :: groups.filter (·.1 ≠ byte)
      | none => (byte, [bytes]) :: groups

/-- The extent with the tree of some byte sequences, in which those with the
same first bytes share states. A sequence that ends inside the tree divides the
state there, so that those after it do not come before it. Every level takes a
byte, so that `fuel` need not exceed the length of the longest sequence. -/
def treeExtent : (fuel : Nat) → List (List Nat) → Extent → Extent
  | 0, _, extent => extent
  | fuel + 1, sequences, extent =>
      if sequences.all List.isEmpty then extent
      else
        let leading := (sequences.takeWhile List.isEmpty).length
        let parts := (splitAtEmpty (sequences.drop (leading - 1))).map groupByFirst
        let extent := parts.foldl (fun extent groups =>
          let extent := groups.foldl (fun extent group => treeExtent fuel group.2 extent) extent
          if groups.isEmpty then extent
          else if groups.length = 1 then extent.addStates 1
          else extent.addRanges groups.length) extent
        extent.addFork ((parts.filter (!·.isEmpty)).length + (parts.length - 1))

/-- The text of a pattern that is one. -/
def text? : Pattern → Option (List Char)
  | literal text => some text
  | _ => none

/-- The extent with a choice between texts. -/
def textsExtent (backward : Bool) (texts : List (List Char)) (extent : Extent) : Extent :=
  let sequences := texts.map fun text =>
    if backward then (textBytes text).reverse else textBytes text
  treeExtent ((sequences.map List.length).foldl max 0 + 1) sequences (extent.addStates 1)

mutual

/-- Whether a pattern adds the same to every extent. -/
def isUniform : Pattern → Bool
  | set _ characters => characters.isAscii
  | repetition _ _ _ repeated => repeated.isUniform
  | group _ body => body.isUniform
  | sequence parts => allUniform parts
  | choice branches => allUniform branches
  | _ => true

/-- Whether some patterns add the same to every extent. -/
def allUniform : List Pattern → Bool
  | [] => true
  | pattern :: rest => pattern.isUniform && allUniform rest

end

mutual

/-- Whether the last state of a pattern branches, so that a link from it takes
memory. -/
def endsInFork (backward : Bool) : Pattern → Bool
  | repetition _ minimum maximum? repeated =>
      match maximum? with
      | none => 0 < minimum || repeated.minLength?.any (0 < ·)
      | some maximum => minimum = maximum && 0 < minimum && repeated.endsInFork backward
  | group _ body => body.endsInFork backward
  | sequence parts => lastEndsInFork backward parts
  | _ => false

/-- Whether the last state of the part that is read last branches. -/
def lastEndsInFork (backward : Bool) : List Pattern → Bool
  | [] => false
  | [part] => part.endsInFork backward
  | part :: rest => if backward then part.endsInFork backward else lastEndsInFork backward rest

end

/-- The number of bytes that a link from the end of a pattern takes. -/
def linkBytes (backward : Bool) (pattern : Pattern) : Nat :=
  if pattern.endsInFork backward then 4 else 0

/-- The number of bytes that links between parts take. -/
def innerLinkBytes (backward : Bool) (parts : List Pattern) : Nat :=
  let linked := if backward then parts.drop 1 else parts.dropLast
  4 * linked.countP (endsInFork backward)

/-- The extent with a repetition of a pattern that has an extent of its own, a
number of bytes for a link from its end, and takes characters or may not. -/
def repetitionExtent (uniform takesCharacters : Bool) (link : Nat) (step : Extent → Extent)
    (minimum : Nat) (maximum? : Option Nat) (extent : Extent) : Extent :=
  match maximum? with
  | none =>
      if 0 < minimum then
        ((Extent.times uniform step minimum extent).addFork 1).addBytes (link * minimum)
      else if takesCharacters then (step (extent.addFork 1)).addBytes link
      else (((step extent).addFork 2).addFork 2 |>.addStates 1).addBytes link
  | some maximum =>
      if minimum = maximum then
        (Extent.times uniform step minimum extent).addBytes (link * (minimum - 1))
      else if minimum = 0 && maximum = 1 then
        ((step (extent.addFork 2)).addStates 1).addBytes link
      else
        let least :=
          if minimum = 0 then extent.addStates 1 else Extent.times uniform step minimum extent
        (Extent.times uniform (fun extent => step (extent.addFork 2)) (maximum - minimum)
          (least.addStates 1)).addBytes (link * maximum)

mutual

/-- The extent with the states of a pattern. -/
def extentWith (backward : Bool) : Pattern → Extent → Extent
  | empty, extent | assertion _, extent => extent.addStates 1
  | literal text, extent => extent.addStates (byteLength text)
  | set _ characters, extent => setExtent backward characters extent
  | repetition _ minimum maximum? repeated, extent =>
      repetitionExtent repeated.isUniform (repeated.minLength?.any (0 < ·))
        (repeated.linkBytes backward) (repeated.extentWith backward) minimum maximum? extent
  | group _ body, extent => body.extentWith backward extent
  | sequence parts, extent =>
      (partsExtent backward parts extent).addBytes (innerLinkBytes backward parts)
  | choice branches, extent =>
      match allValues? text? branches with
      | some texts => textsExtent backward texts extent
      | none =>
          (branchesExtent backward 0 branches extent).addBytes
            (4 * branches.length + 4 * branches.countP (endsInFork backward))

/-- The extent with the states of patterns one after another. -/
def partsExtent (backward : Bool) : List Pattern → Extent → Extent
  | [], extent => extent
  | part :: rest, extent =>
      if backward then part.extentWith backward (partsExtent backward rest extent)
      else partsExtent backward rest (part.extentWith backward extent)

/-- The extent with the states of branches. The states where they part and meet
come after the second branch. -/
def branchesExtent (backward : Bool) (position : Nat) : List Pattern → Extent → Extent
  | [], extent => extent
  | branch :: rest, extent =>
      let extent := branch.extentWith backward extent
      branchesExtent backward (position + 1) rest
        (if position = 1 then extent.addStates 2 else extent)

end

/-- The extent with some patterns that are searched for together, each with a
final state of its own. -/
def patternsExtent (backward : Bool) (position : Nat) : List Pattern → Extent → Extent
  | [], extent => extent
  | pattern :: rest, extent =>
      let extent := ((pattern.extentWith backward extent).addStates 1).addBytes
        (pattern.linkBytes backward)
      patternsExtent backward (position + 1) rest
        (if position = 1 then extent.addStates 2 else extent)

/-- The extent of the automaton that searches for some patterns together. It may
start anywhere unless all of them match at one end of the text only. -/
def searchExtent (backward : Bool) (patterns : List Pattern) : Extent :=
  let anchored := patterns.all fun pattern =>
    if backward then pattern.endsText else pattern.startsText
  let start : Extent := if anchored then Extent.addStates {} 1
    else ((Extent.addFork {} 2).addStates 1).addRanges 1
  (patternsExtent backward 0 patterns start).addBytes
    (if patterns.length < 2 then 0 else 4 * patterns.length)

/-- Whether both automata that search for some patterns together keep to the
limit. -/
def fit (patterns : List Pattern) : Bool :=
  (searchExtent false patterns).bytes ≤ Extent.limit &&
    (searchExtent true patterns).bytes ≤ Extent.limit

end EventFields.Pattern

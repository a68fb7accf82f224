import EventFields.Pattern.CharacterSet

/-!
# Byte sequences of character sets

In UTF-8 a character takes one byte to four. The characters of a range are told
by sequences of byte ranges: a character is in the range if its bytes are in the
byte ranges of one sequence, one by one.
-/

namespace EventFields.Pattern

/-- A range of bytes, ends included. -/
structure ByteRange where
  first : Nat
  last : Nat
  deriving Repr, DecidableEq

namespace ByteRange

/-- The last code points that take one byte, two and three, and the last one
before the surrogates. -/
def widthLimits : List Nat := [0x7f, 0x7ff, 0xd7ff, 0xdfff, 0xffff]

/-- The pieces of a range between limits. -/
def splitAtLimits (first last : Nat) : List Nat → List (Nat × Nat)
  | [] => [(first, last)]
  | limit :: limits =>
      if limit < first then splitAtLimits first last limits
      else if last ≤ limit then [(first, last)]
      else (first, limit) :: splitAtLimits (limit + 1) last limits

/-- The pieces of a range of which each has all continuations of its first
bytes. The ends are cut off to blocks of some size, and the rest is cut into
larger blocks. -/
def splitIntoBlocks (first last : Nat) : (blockSizes : List Nat) → List (Nat × Nat)
  | [] => [(first, last)]
  | block :: blocks =>
      if first / block = last / block then [(first, last)]
      else
        let inner := (first + block - 1) / block * block
        let head := if first = inner then [] else [(first, inner - 1)]
        if inner / block = last / block && (last + 1) % block ≠ 0 then head ++ [(inner, last)]
        else
          let outer := (last + 1) / block * block
          let tail := if outer = last + 1 then [] else [(outer, last)]
          head ++ splitIntoBlocks inner (outer - 1) blocks ++ tail

/-- The bytes of a code point. -/
def bytes (code : Nat) : List Nat :=
  let tail := fun divisor => 0x80 + code / divisor % 0x40
  if code < 0x80 then [code]
  else if code < 0x800 then [0xc0 + code / 0x40, tail 1]
  else if code < 0x10000 then [0xe0 + code / 0x1000, tail 0x40, tail 1]
  else [0xf0 + code / 0x40000, tail 0x1000, tail 0x40, tail 1]

/-- The byte sequences of a range of code points. -/
def sequencesOfRange (range : Nat × Nat) : List (List ByteRange) :=
  let isCharacters := fun piece : Nat × Nat => piece.1 < 0xd800 || 0xdfff < piece.1
  ((splitAtLimits range.1 range.2 widthLimits).filter isCharacters).flatMap fun piece =>
    let blocks := if piece.2 < 0x80 then [] else [0x40, 0x1000, 0x40000]
    (splitIntoBlocks piece.1 piece.2 blocks).map fun piece =>
      (bytes piece.1).zipWith ByteRange.mk (bytes piece.2)

end ByteRange

/-- The byte sequences of a set, in ascending order. -/
def CharacterSet.byteSequences (set : CharacterSet) : List (List ByteRange) :=
  set.ranges.flatMap ByteRange.sequencesOfRange

end EventFields.Pattern

/-!
# Ranges of code points

Character classes are tables of code point ranges, ends included. Tables of
letter case list runs of characters whose counterparts run in parallel.
-/

namespace EventFields.Text

/-- Whether the code point of a character lies in one of the ranges. -/
def inRanges (ranges : List (Nat × Nat)) (c : Char) : Bool :=
  ranges.any fun range => range.1 ≤ c.toNat && c.toNat ≤ range.2

/-- Every `step`-th character from `first` to `last` has a counterpart, and the
counterparts start at `target` and lie equally far apart. -/
structure CaseRun where
  first : Nat
  last : Nat
  step : Nat
  target : Nat

namespace CaseRun

/-- Whether a code point belongs to the run. -/
def covers (run : CaseRun) (code : Nat) : Bool :=
  run.first ≤ code && code ≤ run.last && (code - run.first) % run.step == 0

/-- The counterpart of a code point of the run. -/
def image (run : CaseRun) (code : Nat) : Nat :=
  code - run.first + run.target

end CaseRun

/-- The counterpart of a character: that of the first run with the character,
or the character itself. -/
def counterpart (runs : List CaseRun) (c : Char) : Char :=
  match runs.find? (·.covers c.toNat) with
  | some run => Char.ofNat (run.image c.toNat)
  | none => c

end EventFields.Text

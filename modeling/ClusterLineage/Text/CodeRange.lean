/-!
# Tables of character codes

A property of characters is a list of code ranges, and a change of characters a list of runs that
share one offset.
-/

namespace ClusterLineage.Text

/-- The codes from `first` to `last`, both included. -/
structure CodeRange where
  first : Nat
  last : Nat

/-- Whether a code lies in the range. -/
def CodeRange.contains (r : CodeRange) (code : Nat) : Bool :=
  r.first ≤ code && code ≤ r.last

/-- Whether a code lies in one of the ranges. -/
def inRanges (ranges : List CodeRange) (code : Nat) : Bool :=
  ranges.any (·.contains code)

/-- Every `stride`-th code from `first` to `last`, each moved by `offset`. -/
structure CodeRun where
  first : Nat
  last : Nat
  stride : Nat
  offset : Int

/-- Whether the run moves a code. -/
def CodeRun.contains (r : CodeRun) (code : Nat) : Bool :=
  r.first ≤ code && code ≤ r.last && (code - r.first) % r.stride == 0

/-- Where a run moves one of its codes. -/
def CodeRun.move (r : CodeRun) (code : Nat) : Nat :=
  (code + r.offset).toNat

/-- Moves a code by the first run that holds it; other codes stay. -/
def moveCode (runs : List CodeRun) (code : Nat) : Nat :=
  match runs.find? (·.contains code) with
  | some r => r.move code
  | none => code

end ClusterLineage.Text

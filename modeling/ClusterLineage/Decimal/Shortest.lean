import ClusterLineage.Decimal.Binary64

/-!
# Shortest decimals of doubles

`shortest` finds, among the decimals that read back as a given double, one with the fewest digits,
and of those the nearest.  A decimal reads back as a double if it lies in the interval of numbers
that round to it.  On each decimal grid only the two neighbours of the double can be the answer,
since an interval around it that holds a point of the grid holds one of them.
-/

namespace ClusterLineage.Decimal

/-- The decimal fraction `digits * 10 ^ exponent`. -/
structure Fraction where
  digits : Nat
  exponent : Int
  deriving DecidableEq, Repr

/-- Compares `a * 2 ^ p` with `b * 10 ^ k`. -/
def compareScaled (a : Nat) (p : Int) (b : Nat) (k : Int) : Ordering :=
  compare (a * twoTo p.toNat * tenTo (-k).toNat) (b * tenTo k.toNat * twoTo (-p).toNat)

/-- Whether a decimal rounds to the double `mantissa * 2 ^ exponent`.  The interval reaches half
way to the neighbours, the lower of which is nearer at a power of two, and includes its ends if the
mantissa is even. -/
def roundsTo (mantissa : Nat) (exponent : Int) (d : Fraction) : Bool :=
  let gapBelow := if mantissa = twoTo 52 && leastExponent < exponent then 1 else 2
  let low := compareScaled (4 * mantissa - gapBelow) (exponent - 2) d.digits d.exponent
  let high := compareScaled (4 * mantissa + 2) (exponent - 2) d.digits d.exponent
  if mantissa % 2 = 0 then low.isLE && high.isGE else low.isLT && high.isGT

/-- The whole part of `mantissa * 2 ^ exponent / 10 ^ k`. -/
def floorOnGrid (mantissa : Nat) (exponent k : Int) : Nat :=
  (mantissa * twoTo exponent.toNat * tenTo (-k).toNat) / (tenTo k.toNat * twoTo (-exponent).toNat)

/-- The better of the two neighbours of a double on the grid of step `10 ^ k`, if one rounds to
it: the nearer one, or the even one of two equally near. -/
def bestOnGrid? (mantissa : Nat) (exponent k : Int) : Option Fraction :=
  let down := floorOnGrid mantissa exponent k
  let below : Fraction := ⟨down, k⟩
  let above : Fraction := ⟨down + 1, k⟩
  match roundsTo mantissa exponent below, roundsTo mantissa exponent above with
  | true, true =>
    match compareScaled (2 * mantissa) exponent (2 * down + 1) k with
    | .lt => some below
    | .gt => some above
    | .eq => some (if down % 2 = 0 then below else above)
  | true, false => some below
  | false, true => some above
  | false, false => none

/-- The number of decimal digits before the point of `mantissa * 2 ^ exponent`: one for numbers
from one to below ten, and zero or less for smaller ones. -/
def wholeDigits (mantissa : Nat) (exponent : Int) : Int :=
  let whole := floorOnGrid mantissa exponent 0
  if whole ≠ 0 then (Nat.toDigits 10 whole).length
  else
    match (List.range 330).find? fun (j : Nat) =>
        floorOnGrid mantissa exponent (-(j + 1 : Int)) ≠ 0 with
    | some j => -(j : Int)
    | none => -330

/-- Drops the zeros that end a decimal, at most `fuel` of them. -/
def Fraction.trim : Nat → Fraction → Fraction
  | 0, d => d
  | fuel + 1, d =>
    if d.digits ≠ 0 && d.digits % 10 = 0 then trim fuel ⟨d.digits / 10, d.exponent + 1⟩ else d

/-- The shortest decimal of the positive double `mantissa * 2 ^ exponent`: the first hit on grids
of one, two and up to seventeen digits. -/
def shortest (mantissa : Nat) (exponent : Int) : Fraction :=
  let whole := wholeDigits mantissa exponent
  match (List.range 17).findSome? fun (n : Nat) =>
      bestOnGrid? mantissa exponent (whole - (n + 1 : Int)) with
  | some d => d.trim 17
  | none => ⟨floorOnGrid mantissa exponent (whole - 17), whole - 17⟩

end ClusterLineage.Decimal

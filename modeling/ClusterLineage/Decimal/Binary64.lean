/-!
# Doubles and decimal fractions

A double that is neither infinite nor a NaN is a sign, a whole number below 2 ^ 53 and a power of
two.  `Finite.ofFloat?` takes one apart, and `nearest` finds the double closest to a decimal
fraction, in exact arithmetic on natural numbers.
-/

namespace ClusterLineage.Decimal

/-- A power of two. -/
def twoTo (n : Nat) : Nat := Nat.pow 2 n

/-- A power of ten. -/
def tenTo (n : Nat) : Nat := Nat.pow 10 n

/-- A finite double: `mantissa * 2 ^ exponent`, with a sign. -/
structure Finite where
  negative : Bool
  mantissa : Nat
  exponent : Int
  deriving DecidableEq, Repr

/-- The least exponent of a double. -/
def leastExponent : Int := -1074

/-- The parts of a double, if it is finite. -/
def Finite.ofFloat? (x : Float) : Option Finite :=
  let bits := x.toBits.toNat
  let negative := bits / twoTo 63 % 2 == 1
  let biased := bits / twoTo 52 % twoTo 11
  let fraction := bits % twoTo 52
  if biased = 2047 then none
  else if biased = 0 then some ⟨negative, fraction, leastExponent⟩
  else some ⟨negative, twoTo 52 + fraction, leastExponent + (biased - 1 : Nat)⟩

/-- The whole number nearest to a fraction, the even one of two. -/
def roundToEven (num den : Nat) : Nat :=
  let down := num / den
  let twiceLeft := 2 * (num % den)
  if twiceLeft < den || (twiceLeft = den && down % 2 = 0) then down else down + 1

/-- A fraction divided by a power of two. -/
def scaleDown (num den : Nat) (exponent : Int) : Nat × Nat :=
  (num * twoTo (-exponent).toNat, den * twoTo exponent.toNat)

/-- The exponent at which a positive fraction has 53 binary digits before the point, or the least
one if it has fewer there. -/
def fitExponent (num den : Nat) : Int :=
  let guess : Int := (num.log2 : Int) - den.log2 - 52
  let (scaledNum, scaledDen) := scaleDown num den guess
  max leastExponent (if scaledNum < twoTo 52 * scaledDen then guess - 1 else guess)

/-- The bits of the positive double nearest to a positive fraction: past the largest double this
is infinity. -/
def nearestBits (num den : Nat) : Nat :=
  let exponent := fitExponent num den
  let (scaledNum, scaledDen) := scaleDown num den exponent
  let bits := (exponent - leastExponent).toNat * twoTo 52 + roundToEven scaledNum scaledDen
  min bits (2047 * twoTo 52)

/-- The double nearest to `digits * 10 ^ exponent`, with a sign.  Fractions far outside the range
of doubles are answered from their size alone. -/
def nearest (negative : Bool) (digits : Nat) (exponent : Int) : Float :=
  let size : Int := (Nat.toDigits 10 digits).length + exponent
  let bits :=
    if digits = 0 || size < -330 then 0
    else if 310 < size then 2047 * twoTo 52
    else nearestBits (digits * tenTo exponent.toNat) (tenTo (-exponent).toNat)
  Float.ofBits (UInt64.ofNat (if negative then twoTo 63 + bits else bits))

end ClusterLineage.Decimal

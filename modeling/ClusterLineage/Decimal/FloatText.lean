import ClusterLineage.Decimal.Shortest

/-!
# The text of a double

The digits of the shortest decimal, written with a point for numbers from `0.0001` to below
`10 ^ 16` and with an exponent of at least two digits otherwise.
-/

namespace ClusterLineage.Decimal

/-- The digits of a decimal with its point, which stands `point` digits after the first. -/
def positional (digits : List Char) (point : Int) : List Char :=
  if point ≤ 0 then '0' :: '.' :: (List.replicate (-point).toNat '0' ++ digits)
  else if point.toNat < digits.length then
    digits.take point.toNat ++ '.' :: digits.drop point.toNat
  else digits ++ List.replicate (point.toNat - digits.length) '0' ++ ['.', '0']

/-- The digits of a decimal with the point after the first, and the exponent. -/
def scientific (digits : List Char) (point : Int) : List Char :=
  let exponent := point - 1
  let size := Nat.toDigits 10 exponent.natAbs
  digits.take 1 ++ (if digits.length = 1 then [] else '.' :: digits.drop 1) ++
    'e' :: (if exponent < 0 then '-' else '+') ::
    (List.replicate (2 - size.length) '0' ++ size)

/-- The text of `mantissa * 2 ^ exponent`. -/
def magnitudeText (mantissa : Nat) (exponent : Int) : List Char :=
  if mantissa = 0 then ['0', '.', '0']
  else
    let d := shortest mantissa exponent
    let digits := Nat.toDigits 10 d.digits
    let point := d.exponent + digits.length
    if -4 < point && point ≤ 16 then positional digits point else scientific digits point

/-- The text of a finite double. -/
def Finite.text (x : Finite) : String :=
  String.ofList
    ((if x.negative then ['-'] else []) ++ magnitudeText x.mantissa x.exponent)

/-- The text of a double, given the words for infinity and for no number. -/
def floatText (infinity nan : String) (x : Float) : String :=
  match Finite.ofFloat? x with
  | some finite => finite.text
  | none => if x.isNaN then nan else if x < 0 then "-" ++ infinity else infinity

end ClusterLineage.Decimal

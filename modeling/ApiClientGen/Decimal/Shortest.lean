import ApiClientGen.Decimal.Binary64

/-!
# The shortest decimal that reads back

A number is written with the fewest decimal digits that still read back as the
same number, and of these with the digits nearest to it.  `shortest` finds the
digits, `positional` and `scientific` lay them out.
-/

namespace ApiClientGen
namespace Decimal

/-- The decimal number `digits · 10 ^ tens`. -/
structure Scaled where
  digits : Nat
  tens : Int
deriving Repr, DecidableEq

/-- Compares `a · 2 ^ twos` with `b · 10 ^ tens`. -/
def compareScaled (a : Nat) (twos : Int) (b : Nat) (tens : Int) : Ordering :=
  let left := a * (if twos < 0 then 1 else Nat.pow 2 twos.natAbs)
    * (if tens < 0 then Nat.pow 10 tens.natAbs else 1)
  let right := b * (if twos < 0 then Nat.pow 2 twos.natAbs else 1)
    * (if tens < 0 then 1 else Nat.pow 10 tens.natAbs)
  compare left right

namespace Binary64

/-- The lower end of the interval that rounds to `x`, in quarters of a unit in
the last place.  The gap below a power of two is half as wide, except at the
least exponent. -/
def lowerQuarters (x : Binary64) : Nat :=
  if x.significand == Nat.pow 2 52 && x.exponent > minExponent then
    4 * x.significand - 1
  else 4 * x.significand - 2

/-- Whether `digits · 10 ^ tens` reads back as the magnitude of `x`.  The ends
of the interval belong to it if the significand is even. -/
def readsBack (x : Binary64) (decimal : Scaled) : Bool :=
  let low :=
    compareScaled x.lowerQuarters (x.exponent - 2) decimal.digits decimal.tens
  let high := compareScaled (4 * x.significand + 2) (x.exponent - 2)
    decimal.digits decimal.tens
  if x.significand % 2 = 0 then low != .gt && high != .lt
  else low == .lt && high == .gt

/-- The whole part of the magnitude of `x` divided by `10 ^ tens`. -/
def floorAt (x : Binary64) (tens : Int) : Nat :=
  let num :=
    x.significand * (if x.exponent < 0 then 1 else Nat.pow 2 x.exponent.natAbs)
    * (if tens < 0 then Nat.pow 10 tens.natAbs else 1)
  let den := (if x.exponent < 0 then Nat.pow 2 x.exponent.natAbs else 1)
    * (if tens < 0 then 1 else Nat.pow 10 tens.natAbs)
  num / den

/-- The multiple of `10 ^ tens` that reads back as `x`.  Of two the nearer one
is taken, and of two equally near ones the even one. -/
def gridPoint? (x : Binary64) (tens : Int) : Option Scaled :=
  let below : Scaled := ⟨x.floorAt tens, tens⟩
  let above : Scaled := ⟨x.floorAt tens + 1, tens⟩
  match readsBack x below, readsBack x above with
  | false, false => none
  | true, false => some below
  | false, true => some above
  | true, true =>
    match compareScaled (2 * x.significand) x.exponent
      (2 * below.digits + 1) tens with
    | .lt => some below
    | .gt => some above
    | .eq => some (if below.digits % 2 = 0 then below else above)

/-- A power of ten above the magnitude of `x`, at most two places too large. -/
def topTens (x : Binary64) : Int :=
  ((x.significand.log2 : Int) + x.exponent + 1) * 30103 / 100000 + 1

/-- The shortest decimal that reads back as the magnitude of `x`, which is not
zero.  The grids of powers of ten are tried from the coarsest on; seventeen
digits always suffice. -/
def shortest (x : Binary64) : Scaled :=
  ((List.range 24).findSome? fun (i : Nat) =>
    x.gridPoint? (x.topTens - i)).getD ⟨0, 0⟩

end Binary64

/-- The digits of a decimal without an exponent, with at least one digit after
the point. -/
def Scaled.positional (decimal : Scaled) : String :=
  let digits := Nat.toDigits 10 decimal.digits
  if decimal.tens ≥ 0 then
    String.ofList
      (digits ++ List.replicate decimal.tens.natAbs '0' ++ ['.', '0'])
  else
    let places := decimal.tens.natAbs
    let padded := List.replicate (places + 1 - digits.length) '0' ++ digits
    let whole := padded.length - places
    String.ofList (padded.take whole ++ '.' :: padded.drop whole)

def Scaled.firstExponent (decimal : Scaled) : Int :=
  decimal.tens + (Nat.toDigits 10 decimal.digits).length - 1

/-- One digit, the other digits after a point if there are any, and the exponent
with its sign. -/
def Scaled.scientific (decimal : Scaled) : String :=
  let exponent := decimal.firstExponent
  let sign := if exponent < 0 then "-" else "+"
  let mantissa :=
    match Nat.toDigits 10 decimal.digits with
    | [] => []
    | [digit] => [digit]
    | digit :: rest => digit :: '.' :: rest
  String.ofList mantissa ++ "e" ++ sign ++ toString exponent.natAbs

def Binary64.signText (x : Binary64) : String :=
  if x.negative then "-" else ""

/-- A number without an exponent if its first digit stands between the fifth
place after the point and the sixteenth place before it, and with one
elsewhere. -/
def Binary64.text (x : Binary64) : String :=
  if x.isZero then x.signText ++ "0.0"
  else
    let decimal := x.shortest
    if -5 ≤ decimal.firstExponent && decimal.firstExponent < 16 then
      x.signText ++ decimal.positional
    else
      x.signText ++ decimal.scientific

end Decimal
end ApiClientGen

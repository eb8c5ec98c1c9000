/-!
# Double-precision numbers

A finite number of the format with 53 significant bits, kept as its sign, its
significand and its power of two, so that every operation is exact arithmetic on
whole numbers followed by one rounding.  The rounding is to the nearest number
of the format, a tie going to the even significand.
-/

namespace ApiClientGen
namespace Decimal

/-- The number `significand · 2 ^ exponent`, negated if `negative` holds.

The significand is below `2 ^ 53`, and it is at least `2 ^ 52` unless the
exponent has its least value `-1074`. -/
structure Binary64 where
  negative : Bool
  significand : Nat
  exponent : Int
deriving Repr, DecidableEq

namespace Binary64

def minExponent : Int := -1074

def maxExponent : Int := 971

/-- Zero with the given sign. -/
def zero (negative : Bool) : Binary64 :=
  ⟨negative, 0, minExponent⟩

def isZero (x : Binary64) : Bool :=
  x.significand == 0

/-- The same magnitude with the given sign. -/
def withSign (x : Binary64) (negative : Bool) : Binary64 :=
  { x with negative := negative }

/-- The whole number nearest to `num / den`, a tie going to the even one. -/
def roundDiv (num den : Nat) : Nat :=
  let quotient := num / den
  let rest := num % den
  if 2 * rest > den || (2 * rest == den && quotient % 2 == 1) then quotient + 1
  else quotient

/-- The significand of `num / den` at the given exponent, rounded. -/
def significandAt (num den : Nat) (exponent : Int) : Nat :=
  if exponent < 0 then roundDiv (num * Nat.pow 2 exponent.natAbs) den
  else roundDiv num (den * Nat.pow 2 exponent.natAbs)

/-- Puts a significand of at most `2 ^ 53` into range; a number that is too
large gives nothing. -/
def normalize (negative : Bool) (significand : Nat) (exponent : Int) :
    Option Binary64 :=
  let carried := significand == Nat.pow 2 53
  let result : Binary64 :=
    if carried then ⟨negative, Nat.pow 2 52, exponent + 1⟩
    else ⟨negative, significand, exponent⟩
  if result.exponent > maxExponent then none else some result

/-- The number nearest to `num / den`, for a positive `den`; a ratio that is too
large gives nothing.

The logarithms place the ratio between two powers of two that are a factor of
four apart, which leaves two exponents; the smaller one is right if the
significand then has no more than 53 bits. -/
def ofRatio (negative : Bool) (num den : Nat) : Option Binary64 :=
  if num = 0 then some (zero negative)
  else
    let low : Int := max ((num.log2 : Int) - den.log2 - 53) minExponent
    let whole :=
      if low < 0 then num * Nat.pow 2 low.natAbs / den
      else num / (den * Nat.pow 2 low.natAbs)
    let exponent := if whole ≥ Nat.pow 2 53 then low + 1 else low
    normalize negative (significandAt num den exponent) exponent

/-- The number nearest to `num · 2 ^ twos / den`. -/
def ofScaledRatio (negative : Bool) (num den : Nat) (twos : Int) :
    Option Binary64 :=
  if twos < 0 then ofRatio negative num (den * Nat.pow 2 twos.natAbs)
  else ofRatio negative (num * Nat.pow 2 twos.natAbs) den

/-- The number nearest to the whole number `n`, which is below `2 ^ 1024` for
every caller. -/
def ofNat (n : Nat) : Binary64 :=
  (ofRatio false n 1).getD (zero false)

/-- The rounded product; one that is too large gives nothing. -/
def mul (x y : Binary64) : Option Binary64 :=
  ofScaledRatio (x.negative != y.negative) (x.significand * y.significand) 1
    (x.exponent + y.exponent)

/-- The rounded quotient by a number other than zero; one that is too large
gives nothing. -/
def div (x y : Binary64) : Option Binary64 :=
  ofScaledRatio (x.negative != y.negative) x.significand y.significand
    (x.exponent - y.exponent)

/-- The number nearest to `mantissa · 10 ^ tens`; one that is too large gives
nothing.

Powers far outside the range are settled by the number of digits alone. -/
def ofDecimal (negative : Bool) (mantissa : Nat) (tens : Int) :
    Option Binary64 :=
  if mantissa = 0 then some (zero negative)
  else
    let digits : Int := (Nat.toDigits 10 mantissa).length
    if digits + tens > 400 then none
    else if digits + tens < -400 then some (zero negative)
    else if tens < 0 then ofRatio negative mantissa (Nat.pow 10 tens.natAbs)
    else ofRatio negative (mantissa * Nat.pow 10 tens.natAbs) 1

end Binary64
end Decimal
end ApiClientGen

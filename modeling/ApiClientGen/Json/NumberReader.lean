import ApiClientGen.Json.Fault
import ApiClientGen.Json.Value
import ApiClientGen.Text.Blank

/-!
# Reading JSON numbers

The significand of a number is kept in an unsigned word of 64 bits: digits of
the whole part that do not fit only count places, and digits of the fraction
that do not fit are dropped.  A number with a fraction or an exponent is the
double nearest to its significand, multiplied or divided by a power of ten, with
a rounding after each of the two steps.
-/

namespace ApiClientGen
namespace Json

open Decimal (Binary64)

/-- A reader takes the text that is left and gives its result with the text
after it. -/
abbrev Reader (α : Type) : Type :=
  List Char → Except Fault (α × List Char)

/-- The greatest unsigned word of 64 bits. -/
def maxWord : Nat := Nat.pow 2 64 - 1

/-- The greatest exponent that is read to its last digit. -/
def maxExponent : Nat := Nat.pow 2 31 - 1

def digitValue (c : Char) : Nat :=
  c.toNat - '0'.toNat

/-- Adds digits to a significand as long as the result fits a word.  Gives the
significand, the number of digits added and the digits left. -/
def addDigits (significand : Nat) : List Char → Nat × Nat × List Char
  | [] => (significand, 0, [])
  | d :: digits =>
    let next := significand * 10 + digitValue d
    if next > maxWord then (significand, 0, d :: digits)
    else
      let (result, added, left) := addDigits next digits
      (result, added + 1, left)

/-- The greatest power of ten that is one factor. -/
def maxFactorTens : Nat := 308

/-- Divides by the greatest factor the given number of times, as long as
something is left. -/
def divideOften : Nat → Binary64 → Option Binary64
  | 0, x => some x
  | times + 1, x =>
    if x.isZero then some x
    else (x.div (Binary64.ofNat (Nat.pow 10 maxFactorTens))).bind
      (divideOften times)

/-- Divides by a power of ten, one factor after the other, the last factor being
what is left. -/
def divideTens (x : Binary64) (tens : Nat) : Option Binary64 :=
  let times := (tens - 1) / maxFactorTens
  (divideOften times x).bind fun quotient =>
    if quotient.isZero then some quotient
    else
      quotient.div (Binary64.ofNat (Nat.pow 10 (tens - maxFactorTens * times)))

/-- The double for `significand · 10 ^ tens`; one that is too large gives
nothing. -/
def scaleTens (significand : Nat) (tens : Int) : Option Binary64 :=
  let x := Binary64.ofNat significand
  if tens < 0 then divideTens x tens.natAbs
  else if x.isZero then some x
  else if tens > maxFactorTens then none
  else x.mul (Binary64.ofNat (Nat.pow 10 tens.natAbs))

/-- The number with the given parts, at the place behind it. -/
def realAt (negative : Bool) (significand : Nat) (tens : Int)
    (rest : List Char) : Except Fault (Number × List Char) :=
  match scaleTens significand tens with
  | some x => .ok (.real (x.withSign negative), rest)
  | none => .error (faultHere .numberOutOfRange rest)

/-- Reads the digits of an exponent behind those that gave `value`.

As soon as the exponent is too large the number is settled: it is out of range,
or it is zero because its significand is zero or its exponent is negative. -/
def readExponentDigits (negative : Bool) (significand : Nat) (tens : Int)
    (exponentNegative : Bool) (value : Nat) : Reader Number
  | [] => finish []
  | d :: rest =>
    if Text.isAsciiDigit d then
      let next := value * 10 + digitValue d
      if next > maxExponent then
        if significand != 0 && !exponentNegative then
          .error (faultHere .numberOutOfRange rest)
        else
          .ok (.real (Binary64.zero negative), rest.dropWhile Text.isAsciiDigit)
      else
        readExponentDigits negative significand tens exponentNegative next rest
    else finish (d :: rest)
where
  /-- The number once its exponent is read. -/
  finish (rest : List Char) : Except Fault (Number × List Char) :=
    realAt negative significand
      (if exponentNegative then tens - value else tens + value) rest

/-- Reads an exponent behind its letter. -/
def readExponent (negative : Bool) (significand : Nat) (tens : Int) :
    Reader Number
  | '+' :: rest => first false rest
  | '-' :: rest => first true rest
  | rest => first false rest
where
  /-- Reads the first digit, which has to be there. -/
  first (exponentNegative : Bool) : Reader Number
    | [] => .error (faultHere .endInValue [])
    | d :: rest =>
      if Text.isAsciiDigit d then
        readExponentDigits negative significand tens exponentNegative
          (digitValue d) rest
      else .error (faultAt .invalidNumber (d :: rest) 1)

/-- Reads an exponent if one follows. -/
def readTail (negative : Bool) (significand : Nat) (tens : Int) : Reader Number
  | 'e' :: rest => readExponent negative significand tens rest
  | 'E' :: rest => readExponent negative significand tens rest
  | rest => realAt negative significand tens rest

/-- Reads a fraction behind its point, which needs at least one digit. -/
def readFraction (negative : Bool) (significand : Nat) (tens : Int)
    (cs : List Char) : Except Fault (Number × List Char) :=
  let digits := cs.takeWhile Text.isAsciiDigit
  let rest := cs.dropWhile Text.isAsciiDigit
  if digits.isEmpty then
    .error
      (faultNext (if rest.isEmpty then .endInValue else .invalidNumber) rest)
  else
    let (result, added, _) := addDigits significand digits
    readTail negative result (tens - added) rest

/-- The whole number with the given significand.  A negative zero and a number
below the least signed word are doubles. -/
def wholeNumber (negative : Bool) (significand : Nat) : Number :=
  if negative then
    if significand = 0 || significand > Nat.pow 2 63 then
      .real ((Binary64.ofNat significand).withSign true)
    else .integer (-(significand : Int))
  else .integer significand

/-- Reads what follows the whole part, of which `dropped` digits did not fit. -/
def readBehindWhole (negative : Bool) (significand dropped : Nat) :
    Reader Number
  | '.' :: rest => readFraction negative significand dropped rest
  | 'e' :: rest => readExponent negative significand dropped rest
  | 'E' :: rest => readExponent negative significand dropped rest
  | rest =>
    if dropped = 0 then .ok (wholeNumber negative significand, rest)
    else realAt negative significand dropped rest

/-- Reads a number behind its sign.  A zero in front has no further digit behind
it. -/
def readUnsigned (negative : Bool) : Reader Number
  | [] => .error (faultHere .endInValue [])
  | d :: rest =>
    if d = '0' then
      if (rest.head?.map Text.isAsciiDigit).getD false then
        .error (faultNext .invalidNumber rest)
      else readBehindWhole negative 0 0 rest
    else if Text.isAsciiDigit d then
      let (significand, _, left) :=
        addDigits 0 ((d :: rest).takeWhile Text.isAsciiDigit)
      readBehindWhole negative significand left.length
        (rest.dropWhile Text.isAsciiDigit)
    else .error (faultAt .invalidNumber (d :: rest) 1)

def readNumber : Reader Number
  | '-' :: rest => readUnsigned true rest
  | rest => readUnsigned false rest

end Json
end ApiClientGen

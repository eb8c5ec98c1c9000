import ApiClientGen.Json.NumberReader
import ApiClientGen.Json.StringReader
import ApiClientGen.Yaml.Fault

/-!
# The values of scalars

A plain scalar without a tag is read as nothing, a truth value, a whole number
or another number if it looks like one, and as a text otherwise.  A tag asks for
one of these kinds; quoted and block scalars are texts.
-/

namespace ApiClientGen
namespace Yaml

open Decimal (Binary64)
open Json (Value)

/-- Whether a scalar stands for nothing. -/
def isNull (text : String) : Bool :=
  ["null", "Null", "NULL", "~"].contains text

def boolean? (text : String) : Option Bool :=
  if ["true", "True", "TRUE"].contains text then some true
  else if ["false", "False", "FALSE"].contains text then some false
  else none

/-! ## Whole numbers -/

/-- The value of digits in a base up to sixteen; there has to be at least
one. -/
def digitsValue? (base : Nat) : List Char → Option Nat
  | [] => none
  | c :: rest =>
    (c :: rest).foldl
      (fun value c =>
        match value, Json.hexValue? c with
        | some n, some digit =>
          if digit < base then some (n * base + digit) else none
        | _, _ => none)
      (some 0)

/-- Whether a scalar has a leading zero and further digits only.  Such a scalar
is a text. -/
def hasLeadingZero (cs : List Char) : Bool :=
  let digits :=
    match cs with
    | '-' :: rest => rest
    | '+' :: rest => rest
    | rest => rest
  digits.length > 1 && digits.head? == some '0' && digits.all Text.isAsciiDigit

/-- The magnitude of a whole number: hexadecimal, octal or binary with its mark,
or decimal. -/
def magnitude? (cs : List Char) : Option Nat :=
  match cs with
  | '0' :: 'x' :: digits => digitsValue? 16 digits
  | '0' :: 'o' :: digits => digitsValue? 8 digits
  | '0' :: 'b' :: digits => digitsValue? 2 digits
  | digits => if hasLeadingZero digits then none else digitsValue? 10 digits

/-- What a scalar is as a whole number. -/
inductive Whole where
  | number (value : Int)
  /-- A whole number that fits no word of 64 bits, but one of 128. -/
  | tooLarge
  | notWhole
deriving Repr, DecidableEq

/-- The whole number with the given sign and magnitude.  Beyond 128 bits it is
no whole number. -/
def wholeOf (negative : Bool) (magnitude : Nat) : Whole :=
  if negative then
    if magnitude ≤ Nat.pow 2 63 then .number (-(magnitude : Int))
    else if magnitude ≤ Nat.pow 2 127 then .tooLarge else .notWhole
  else if magnitude < Nat.pow 2 64 then .number magnitude
  else if magnitude < Nat.pow 2 128 then .tooLarge else .notWhole

/-- Reads a scalar as a whole number, with an optional sign. -/
def whole (text : String) : Whole :=
  let (negative, cs) :=
    match text.toList with
    | '-' :: rest => (true, rest)
    | '+' :: rest => (false, rest)
    | rest => (false, rest)
  match magnitude? cs with
  | some n => wholeOf negative n
  | none => .notWhole

/-! ## Other numbers -/

/-- What a scalar is as a number that need not be whole. -/
inductive Real where
  | number (value : Binary64)
  | notFinite
  | notReal
deriving Repr, DecidableEq

/-- The exponent that a number ends in, or nothing if what is left is no
exponent. -/
def exponent? : List Char → Option Int
  | [] => some 0
  | mark :: rest =>
    if mark == 'e' || mark == 'E' then
      let (negative, digits) :=
        match rest with
        | '-' :: digits => (true, digits)
        | '+' :: digits => (false, digits)
        | digits => (false, digits)
      if digits.all Text.isAsciiDigit then
        (digitsValue? 10 digits).map fun n => if negative then -(n : Int) else n
      else none
    else none

/-- The number that digits with an optional point and an optional exponent
write. -/
def decimal? (negative : Bool) (cs : List Char) : Option Binary64 :=
  let wholePart := cs.takeWhile Text.isAsciiDigit
  let rest := cs.dropWhile Text.isAsciiDigit
  let (fraction, rest) :=
    match rest with
    | '.' :: rest =>
      (rest.takeWhile Text.isAsciiDigit, rest.dropWhile Text.isAsciiDigit)
    | rest => ([], rest)
  match digitsValue? 10 (wholePart ++ fraction), exponent? rest with
  | some mantissa, some exponent =>
    Binary64.ofDecimal negative mantissa (exponent - fraction.length)
  | _, _ => none

/-- Reads a scalar as a number that need not be whole. -/
def real (text : String) : Real :=
  let unsigned :=
    match text.toList with
    | '+' :: rest => rest
    | rest => rest
  if [".inf", ".Inf", ".INF"].contains (String.ofList unsigned) then .notFinite
  else if ["-.inf", "-.Inf", "-.INF", ".nan", ".NaN", ".NAN"].contains text then
    .notFinite
  else
    let (negative, digits) :=
      match text.toList with
      | '+' :: rest => (false, rest)
      | '-' :: rest => (true, rest)
      | rest => (false, rest)
    match decimal? negative digits with
    | some value => .number value
    | none => .notReal

/-- The value of a number that need not be whole.  What is not finite has no
value. -/
def Real.value? : Real → Option Value
  | .number value => some (.number (.real value))
  | .notFinite => some .null
  | .notReal => none

/-! ## Scalars -/

def plainValue (text : String) : Except Fault Value :=
  if text = "" || isNull text then .ok .null
  else
    match boolean? text with
    | some value => .ok (.bool value)
    | none =>
      match whole text with
      | .number value => .ok (.number (.integer value))
      | .tooLarge => .error .numberOutOfRange
      | .notWhole =>
        if hasLeadingZero text.toList then .ok (.string text)
        else .ok ((real text).value?.getD (.string text))

def taggedValue (tag text : String) : Except Fault Value :=
  if tag = "tag:yaml.org,2002:bool" then
    match boolean? text with
    | some value => .ok (.bool value)
    | none => .error .tagMismatch
  else if tag = "tag:yaml.org,2002:int" then
    match whole text with
    | .number value => .ok (.number (.integer value))
    | .tooLarge => .error .numberOutOfRange
    | .notWhole => .error .tagMismatch
  else if tag = "tag:yaml.org,2002:float" then
    match (real text).value? with
    | some value => .ok value
    | none => .error .tagMismatch
  else if tag = "tag:yaml.org,2002:null" then
    if isNull text then .ok .null else .error .tagMismatch
  else if tag.toList.head? = some '!' then .error .unknownTag
  else .ok (.string text)

def scalarValue (tag : Option String) (text : String) (plain : Bool) :
    Except Fault Value :=
  match tag with
  | some tag => taggedValue tag text
  | none => if plain then plainValue text else .ok (.string text)

end Yaml
end ApiClientGen

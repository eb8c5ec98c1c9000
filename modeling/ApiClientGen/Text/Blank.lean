import ApiClientGen.Text.CodePoints

/-!
# Blanks, pieces and words

Cutting a text into pieces at chosen characters, and the two uses made of it
with the blanks of Unicode: trimming and splitting into words.
-/

namespace ApiClientGen
namespace Text

/-- The code points with the property `White_Space`. -/
def blankRanges : List (Nat × Nat) :=
  [(0x9, 0xD), (0x20, 0x20), (0x85, 0x85), (0xA0, 0xA0), (0x1680, 0x1680),
    (0x2000, 0x200A), (0x2028, 0x2029), (0x202F, 0x202F), (0x205F, 0x205F),
    (0x3000, 0x3000)]

/-- Whether `c` is a space, a tab, a line end or another blank. -/
def isBlank (c : Char) : Bool :=
  inRanges blankRanges c.toNat

def trim (cs : List Char) : List Char :=
  ((cs.dropWhile isBlank).reverse.dropWhile isBlank).reverse

/-- Cuts a text at every character that satisfies `cut`, which is dropped.
There is one piece more than there are cuts, and a piece may be empty. -/
def pieces (cut : Char → Bool) : List Char → List (List Char)
  | [] => [[]]
  | c :: rest =>
    if cut c then
      [] :: pieces cut rest
    else
      match pieces cut rest with
      | [] => [[c]]
      | piece :: others => (c :: piece) :: others

/-- The maximal parts of a text without a blank, in order. -/
def words (cs : List Char) : List (List Char) :=
  (pieces isBlank cs).filter (!·.isEmpty)

/-- Writes texts one after the other with `separator` between two neighbours. -/
def joinWith (separator : List Char) : List (List Char) → List Char
  | [] => []
  | [piece] => piece
  | piece :: next :: others =>
    piece ++ separator ++ joinWith separator (next :: others)

/-- The lower-case form of the letters `A` to `Z`; every other character
stays. -/
def asciiLower (cs : List Char) : List Char :=
  cs.map Char.toLower

/-- Whether `c` is one of the digits `0` to `9`. -/
def isAsciiDigit (c : Char) : Bool :=
  '0' ≤ c && c ≤ '9'

end Text
end ApiClientGen

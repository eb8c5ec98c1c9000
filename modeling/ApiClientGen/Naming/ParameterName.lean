import ApiClientGen.Naming.Identifier
import ApiClientGen.Text.Blank

/-!
# Names of parameters

A parameter's name becomes a camel-case identifier: `X-Request-Id` becomes
`xRequestId`.  The name is first reduced to its runs of letters and numbers,
then cut into words at changes of case, and the words are written together.
-/

namespace ApiClientGen
namespace Naming

/-- Replaces each run of other characters between two letters or numbers by one
underscore, and drops it at both ends.

`started` holds once a letter or number has been kept, and `gap` while other
characters separate it from the next one. -/
def sanitizeFrom (started gap : Bool) : List Char → List Char
  | [] => []
  | c :: rest =>
    if Text.isAlphanumeric c then
      (if gap && started then ['_', c] else [c]) ++ sanitizeFrom true false rest
    else
      sanitizeFrom started true rest

/-- The letters and numbers of a name, with single underscores for what stands
between them. -/
def sanitize (name : List Char) : List Char :=
  sanitizeFrom false false name

/-- The case of the last letter of the current word that has one. -/
inductive WordCase where
  | none
  | lower
  | upper
deriving Repr, DecidableEq

/-- The case of a word once `c` has been added to it. -/
def WordCase.add (current : WordCase) (c : Char) : WordCase :=
  if Text.isLowercase c then .lower
  else if Text.isUppercase c then .upper else current

/-- Cuts a run of letters and numbers into words.

A word ends after a lower-case letter that a capital follows, and before the
last of several capitals when a lower-case letter follows it.  `word` holds the
characters of the current word, last first. -/
def caseWords (word : List Char) (current : WordCase) :
    List Char → List (List Char)
  | [] => [word.reverse]
  | [c] => [(c :: word).reverse]
  | c :: next :: rest =>
    if current.add c = .lower && Text.isUppercase next then
      (c :: word).reverse :: caseWords [] .none (next :: rest)
    else if current = .upper && Text.isUppercase c && Text.isLowercase next then
      word.reverse :: caseWords [c] .none (next :: rest)
    else
      caseWords (c :: word) (current.add c) (next :: rest)

/-- A word in lower case, where a capital sigma at its end becomes `ς`. -/
def lowerWord : List Char → List Char
  | [] => []
  | [c] => if c = 'Σ' then ['ς'] else Text.lowerChar c
  | c :: next :: rest => Text.lowerChar c ++ lowerWord (next :: rest)

/-- A word in lower case with a capital first character. -/
def capitalWord : List Char → List Char
  | [] => []
  | c :: rest => Text.upperChar c ++ lowerWord rest

/-- The words of a name: the parts between its underscores, cut at changes of
case. -/
def nameWords (name : List Char) : List (List Char) :=
  ((Text.pieces (!Text.isAlphanumeric ·) name).filter (!·.isEmpty)).flatMap
    (caseWords [] .none)

/-- Writes words together, the first in lower case and the others with a
capital. -/
def camelCase : List (List Char) → List Char
  | [] => []
  | first :: others => lowerWord first ++ others.flatMap capitalWord

/-- The identifier of a parameter with the given name.

A name without letters and numbers gives `unnamed`, and a leading digit `0` to
`9` is put behind an underscore. -/
def parameterIdentifier (name : String) : String :=
  match camelCase (nameWords (sanitize name.toList)) with
  | [] => "unnamed"
  | first :: rest =>
    String.ofList
      (if Text.isAsciiDigit first then '_' :: first :: rest else first :: rest)

end Naming
end ApiClientGen

import ApiClientGen.Yaml.Fault

/-!
# Places in a YAML text

A cursor is the text that is left together with the place where it starts.
Indentation is counted in columns, and the length of a key in characters on one
line, so a cursor knows all three.
-/

namespace ApiClientGen
namespace Yaml

/-- Whether a text may hold `c` at all. -/
def isAllowed (c : Char) : Bool :=
  let n := c.toNat
  n == 0x09 || n == 0x0A || n == 0x0D || (0x20 ≤ n && n ≤ 0x7E) || n == 0x85 ||
    (0xA0 ≤ n && n ≤ 0xD7FF) || (0xE000 ≤ n && n ≤ 0xFFFD && n != 0xFEFF) ||
    0x10000 ≤ n

def isBreak (c : Char) : Bool :=
  c == '\r' || c == '\n' || c == '\u0085' || c == '\u2028' || c == '\u2029'

def isSpaceOrTab (c : Char) : Bool :=
  c == ' ' || c == '\t'

/-- Whether there is no character, or one that separates. -/
def isGapOrEnd : Option Char → Bool
  | none => true
  | some c => isSpaceOrTab c || isBreak c

/-- Whether the text ends here or the line does. -/
def isBreakOrEnd : Option Char → Bool
  | none => true
  | some c => isBreak c

/-- Whether `c` may stand in the name of an anchor or a tag handle. -/
def isWordChar (c : Char) : Bool :=
  c.isAlphanum || c == '_' || c == '-'

/-- The text that is left and the place where it starts. -/
structure Cursor where
  rest : List Char
  index : Nat
  line : Nat
  column : Nat
deriving Repr

namespace Cursor

def start (text : List Char) : Cursor :=
  ⟨text, 0, 0, 0⟩

def head? (cursor : Cursor) : Option Char :=
  cursor.rest.head?

/-- The character after `n` more. -/
def at? (cursor : Cursor) (n : Nat) : Option Char :=
  cursor.rest[n]?

/-- Goes over `n` characters that end no line. -/
def skip (cursor : Cursor) (n : Nat) : Cursor :=
  ⟨cursor.rest.drop n, cursor.index + n, cursor.line, cursor.column + n⟩

/-- Goes over the characters that satisfy `p`, none of which ends a line. -/
def skipWhile (cursor : Cursor) (p : Char → Bool) : Cursor :=
  cursor.skip (cursor.rest.takeWhile p).length

/-- Goes over the end of a line and gives the break that it stands for: a line
feed, or one of the two separators of their own. -/
def readBreak (cursor : Cursor) : List Char × Cursor :=
  match cursor.rest with
  | '\r' :: '\n' :: rest =>
    (['\n'], ⟨rest, cursor.index + 2, cursor.line + 1, 0⟩)
  | c :: rest =>
    if isBreak c then
      ([if c == '\u2028' || c == '\u2029' then c else '\n'],
        ⟨rest, cursor.index + 1, cursor.line + 1, 0⟩)
    else ([], cursor)
  | [] => ([], cursor)

def skipBreak (cursor : Cursor) : Cursor :=
  cursor.readBreak.2

/-- Whether three of the same character stand at the start of a line and are set
off from the rest, as they do where a document starts or ends. -/
def atMark (cursor : Cursor) (mark : Char) : Bool :=
  cursor.column == 0 && cursor.rest.take 3 == [mark, mark, mark] &&
    isGapOrEnd (cursor.at? 3)

/-- Whether a document starts or ends here. -/
def atDocumentMark (cursor : Cursor) : Bool :=
  cursor.atMark '-' || cursor.atMark '.'

/-- Goes over spaces, tabs and a comment; the line has to end behind them. -/
def skipToLineEnd (cursor : Cursor) (fault : Fault) : Except Fault Cursor :=
  let blank := cursor.skipWhile isSpaceOrTab
  let behind :=
    if blank.head? = some '#' then blank.skipWhile (!isBreak ·) else blank
  if isBreakOrEnd behind.head? then .ok behind.skipBreak else .error fault

end Cursor
end Yaml
end ApiClientGen

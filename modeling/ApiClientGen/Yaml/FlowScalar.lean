import ApiClientGen.Json.StringReader
import ApiClientGen.Yaml.Cursor

/-!
# Plain and quoted scalars

Both may go over several lines.  A single line break between two parts becomes a
space, and further ones are kept; blanks at either end of a line are dropped.
-/

namespace ApiClientGen
namespace Yaml

/-- What stands between two parts of a scalar: blanks on one line, or line
breaks. -/
structure Gap where
  blanks : List Char
  broken : Bool
  firstBreak : List Char
  otherBreaks : List Char
deriving Repr

namespace Gap

def none : Gap :=
  ⟨[], false, [], []⟩

/-- A gap whose first line break has been escaped. -/
def escapedBreak : Gap :=
  ⟨[], true, [], []⟩

/-- What a gap contributes to the text of a scalar. -/
def text (gap : Gap) : List Char :=
  if gap.broken then
    if gap.firstBreak == ['\n'] then
      if gap.otherBreaks.isEmpty then [' '] else gap.otherBreaks
    else gap.firstBreak ++ gap.otherBreaks
  else gap.blanks

/-- Adds a blank; it does not count behind a line break. -/
def addBlank (gap : Gap) (c : Char) : Gap :=
  if gap.broken then gap else { gap with blanks := gap.blanks ++ [c] }

def addBreak (gap : Gap) (lineBreak : List Char) : Gap :=
  if gap.broken then { gap with otherBreaks := gap.otherBreaks ++ lineBreak }
  else ⟨[], true, lineBreak, gap.otherBreaks⟩

end Gap

/-- Goes over the blanks and line breaks in front of the next part.  At the
start of a line, a tab is refused in front of the column `indent`. -/
def readGap (indent : Int) : Nat → Gap → Cursor → Except Fault (Gap × Cursor)
  | 0, gap, cursor => .ok (gap, cursor)
  | steps + 1, gap, cursor =>
    match cursor.head? with
    | none => .ok (gap, cursor)
    | some c =>
      if isSpaceOrTab c then
        if gap.broken && (cursor.column : Int) < indent && c == '\t' then
          .error .tabInIndentation
        else readGap indent steps (gap.addBlank c) (cursor.skip 1)
      else if isBreak c then
        let (lineBreak, next) := cursor.readBreak
        readGap indent steps (gap.addBreak lineBreak) next
      else .ok (gap, cursor)

/-! ## Plain scalars -/

/-- Whether `c` opens, closes or separates in a flow collection. -/
def isFlowIndicator (c : Char) : Bool :=
  c == ',' || c == '[' || c == ']' || c == '{' || c == '}'

/-- The part of a plain scalar up to the next blank, line break or indicator
that ends it. -/
def plainPart (inFlow : Bool) : List Char → Except Fault (List Char)
  | [] => .ok []
  | c :: rest =>
    let next := rest.head?
    if isGapOrEnd (some c) then .ok []
    else if inFlow && c == ':' &&
        (next.map fun d => isFlowIndicator d || d == '?').getD false then
      .error .colonInPlainScalar
    else if (c == ':' && isGapOrEnd next) || (inFlow && isFlowIndicator c) then
      .ok []
    else do
      let part ← plainPart inFlow rest
      .ok (c :: part)

/-- A plain scalar that has been read, the place behind it, and whether a line
ended there. -/
structure PlainScalar where
  text : List Char
  lineEnded : Bool
  cursor : Cursor

/-- Reads a plain scalar.  `done` holds the characters read, last first, and
`gap` what stands behind them. -/
def readPlainSteps (inFlow : Bool) (indent : Int) :
    Nat → List Char → Gap → Cursor → Except Fault PlainScalar
  | 0, done, gap, cursor => .ok ⟨done.reverse, gap.broken, cursor⟩
  | steps + 1, done, gap, cursor =>
    if cursor.atDocumentMark || cursor.head? == some '#' then
      .ok ⟨done.reverse, gap.broken, cursor⟩
    else do
      let part ← plainPart inFlow cursor.rest
      let done :=
        if part.isEmpty then done
        else part.reverse ++ (gap.text.reverse ++ done)
      let gap := if part.isEmpty then gap else Gap.none
      let behind := cursor.skip part.length
      if behind.head?.isNone || !isGapOrEnd behind.head? then
        .ok ⟨done.reverse, gap.broken, behind⟩
      else
        let (gap, next) ← readGap indent (steps + 1) gap behind
        if !inFlow && (next.column : Int) < indent then
          .ok ⟨done.reverse, gap.broken, next⟩
        else readPlainSteps inFlow indent steps done gap next

/-- Reads a plain scalar inside a collection whose column is one less than
`indent`.  There are fewer than `steps` characters left. -/
def readPlain (inFlow : Bool) (indent : Int) (steps : Nat) (cursor : Cursor) :
    Except Fault PlainScalar :=
  readPlainSteps inFlow indent steps [] Gap.none cursor

/-! ## Quoted scalars -/

/-- The character that a letter stands for behind a backslash. -/
def letterEscape? (c : Char) : Option Char :=
  match c with
  | '0' => some '\x00'
  | 'a' => some '\x07'
  | 'b' => some '\x08'
  | 't' => some '\t'
  | '\t' => some '\t'
  | 'n' => some '\n'
  | 'v' => some '\x0B'
  | 'f' => some '\x0C'
  | 'r' => some '\r'
  | 'e' => some '\x1B'
  | ' ' => some ' '
  | '"' => some '"'
  | '/' => some '/'
  | '\\' => some '\\'
  | 'N' => some '\u0085'
  | '_' => some '\u00A0'
  | 'L' => some '\u2028'
  | 'P' => some '\u2029'
  | _ => none

/-- The number of hexadecimal digits behind a letter that starts an escape by
code point. -/
def codePointDigits? (c : Char) : Option Nat :=
  match c with
  | 'x' => some 2
  | 'u' => some 4
  | 'U' => some 8
  | _ => none

/-- The number that the first `count` characters write in hexadecimal. -/
def readHex (value : Nat) : Nat → List Char → Option Nat
  | 0, _ => some value
  | _ + 1, [] => none
  | count + 1, c :: rest =>
    match Json.hexValue? c with
    | some digit => readHex (value * 16 + digit) count rest
    | none => none

/-- Reads an escape from its backslash on; the escape does not end the line. -/
def readEscape (cursor : Cursor) : Except Fault (Char × Cursor) :=
  match cursor.at? 1 with
  | none => .error .invalidEscape
  | some letter =>
    match letterEscape? letter with
    | some c => .ok (c, cursor.skip 2)
    | none =>
      match codePointDigits? letter with
      | none => .error .invalidEscape
      | some count =>
        match readHex 0 count (cursor.rest.drop 2) with
        | none => .error .invalidEscape
        | some n =>
          if (0xD800 ≤ n && n ≤ 0xDFFF) || n > 0x10FFFF then
            .error .invalidEscape
          else .ok (Char.ofNat n, cursor.skip (2 + count))

/-- Reads a part of a quoted scalar up to the next blank, line break or closing
quote.  The part may end in an escaped line break, which is reported. -/
def readQuotedPart (isSingle : Bool) :
    Nat → List Char → Cursor → Except Fault (List Char × Bool × Cursor)
  | 0, done, cursor => .ok (done, false, cursor)
  | steps + 1, done, cursor =>
    match cursor.rest with
    | [] => .ok (done, false, cursor)
    | c :: rest =>
      if isGapOrEnd (some c) then .ok (done, false, cursor)
      else if isSingle && c == '\'' && rest.head? == some '\'' then
        readQuotedPart isSingle steps ('\'' :: done) (cursor.skip 2)
      else if c == (if isSingle then '\'' else '"') then
        .ok (done, false, cursor)
      else if !isSingle && c == '\\' then
        if (rest.head?.map isBreak).getD false then
          .ok (done, true, (cursor.skip 1).skipBreak)
        else
          match readEscape cursor with
          | .error fault => .error fault
          | .ok (escaped, next) =>
            readQuotedPart isSingle steps (escaped :: done) next
      else readQuotedPart isSingle steps (c :: done) (cursor.skip 1)

/-- Reads a quoted scalar behind its opening quote. -/
def readQuotedSteps (isSingle : Bool) :
    Nat → List Char → Cursor → Except Fault (List Char × Cursor)
  | 0, _, _ => .error .unfinishedScalar
  | steps + 1, done, cursor =>
    if cursor.atDocumentMark then .error .documentMarkInScalar
    else if cursor.rest.isEmpty then .error .unfinishedScalar
    else do
      let (done, escaped, behind) ←
        readQuotedPart isSingle (steps + 1) done cursor
      if behind.head? == some (if isSingle then '\'' else '"') then
        .ok (done.reverse, behind.skip 1)
      else
        let before := if escaped then Gap.escapedBreak else Gap.none
        let (gap, next) ← readGap 0 (steps + 1) before behind
        readQuotedSteps isSingle steps (gap.text.reverse ++ done) next

/-- Reads a quoted scalar from its opening quote on.  There are fewer than
`steps` characters left. -/
def readQuoted (isSingle : Bool) (steps : Nat) (cursor : Cursor) :
    Except Fault (List Char × Cursor) :=
  readQuotedSteps isSingle steps [] (cursor.skip 1)

end Yaml
end ApiClientGen

import ApiClientGen.Yaml.Cursor

/-!
# Block scalars

A block scalar holds the lines that are indented deeper than the collection
around it.  A literal one keeps its line breaks; a folded one joins lines that
start without a blank.  The header tells what becomes of the line breaks at the
end.
-/

namespace ApiClientGen
namespace Yaml

/-- What becomes of the line breaks at the end of a block scalar. -/
inductive Chomping where
  | clip
  | strip
  | keep
deriving Repr, DecidableEq

def chomping? : Option Char → Option Chomping
  | some '-' => some .strip
  | some '+' => some .keep
  | _ => none

/-- Reads the digit of an indentation indicator, if there is one.  Zero is
refused. -/
def readIncrement (cursor : Cursor) : Except Fault (Option Nat × Cursor) :=
  match cursor.head? with
  | some c =>
    if c == '0' then .error .invalidBlockHeader
    else if c.isDigit then .ok (some (c.toNat - '0'.toNat), cursor.skip 1)
    else .ok (none, cursor)
  | none => .ok (none, cursor)

/-- Reads the two indicators of a header, in either order. -/
def readHeader (cursor : Cursor) :
    Except Fault (Chomping × Option Nat × Cursor) :=
  match chomping? cursor.head? with
  | some chomping => do
    let (increment, next) ← readIncrement (cursor.skip 1)
    .ok (chomping, increment, next)
  | none => do
    let (increment, next) ← readIncrement cursor
    match increment, chomping? next.head? with
    | some _, some chomping => .ok (chomping, increment, next.skip 1)
    | _, _ => .ok (.clip, increment, next)

/-- Goes over indentation and empty lines.  Without a known indentation (`none`)
all spaces count as indentation, and the deepest column is found.  Gives the
line breaks and that column. -/
def readEmptyLines (indent : Option Int) :
    Nat → List Char → Int → Cursor → Except Fault (List Char × Int × Cursor)
  | 0, breaks, deepest, cursor => .ok (breaks, deepest, cursor)
  | steps + 1, breaks, deepest, cursor =>
    let spaces := cursor.rest.takeWhile (· == ' ')
    let indentation :=
      match indent with
      | none => spaces
      | some limit => spaces.take (limit - cursor.column).toNat
    let here := cursor.skip indentation.length
    let deepest := max deepest here.column
    let inside :=
      match indent with
      | none => true
      | some limit => (here.column : Int) < limit
    if inside && here.head? == some '\t' then .error .tabInIndentation
    else if (here.head?.map isBreak).getD false then
      let (lineBreak, next) := here.readBreak
      readEmptyLines indent steps (breaks ++ lineBreak) deepest next
    else .ok (breaks, deepest, here)

/-- The text of a block scalar so far. -/
structure BlockProgress where
  /-- The characters read, last first. -/
  done : List Char
  /-- The line break behind the last line. -/
  lastBreak : List Char
  /-- The line breaks of the empty lines after it. -/
  emptyBreaks : List Char
  /-- Whether the last line starts with a blank. -/
  startsBlank : Bool

/-- The separation between the lines read so far and a line that starts with a
blank or not. -/
def BlockProgress.separation (progress : BlockProgress)
    (literal startsBlank : Bool) : List Char :=
  if !literal && progress.lastBreak == ['\n'] && !progress.startsBlank &&
      !startsBlank then
    if progress.emptyBreaks.isEmpty then [' '] else progress.emptyBreaks
  else progress.lastBreak ++ progress.emptyBreaks

/-- Reads the lines of a block scalar that start at the column `indent`. -/
def readLines (literal : Bool) (indent : Int) :
    Nat → BlockProgress → Cursor → Except Fault (BlockProgress × Cursor)
  | 0, progress, cursor => .ok (progress, cursor)
  | steps + 1, progress, cursor =>
    if (cursor.column : Int) == indent && !cursor.rest.isEmpty then do
      let startsBlank := (cursor.head?.map isSpaceOrTab).getD false
      let line := cursor.rest.takeWhile (!isBreak ·)
      let done := line.reverse ++
        ((progress.separation literal startsBlank).reverse ++ progress.done)
      let (lastBreak, next) := (cursor.skip line.length).readBreak
      let (emptyBreaks, _, next) ←
        readEmptyLines (some indent) (steps + 1) [] 0 next
      readLines literal indent steps
        ⟨done, lastBreak, emptyBreaks, startsBlank⟩ next
    else .ok (progress, cursor)

/-- Reads a block scalar from its indicator on, inside a collection at the
column `parent`, which is `-1` outside of all collections.  There are fewer than
`steps` characters left. -/
def readBlock (literal : Bool) (parent : Int) (steps : Nat) (cursor : Cursor) :
    Except Fault (List Char × Cursor) := do
  let (chomping, increment, header) ← readHeader (cursor.skip 1)
  let first ← header.skipToLineEnd .invalidBlockHeader
  let known :=
    increment.map fun n => if parent ≥ 0 then parent + (n : Int) else (n : Int)
  let (breaks, deepest, body) ← readEmptyLines known steps [] 0 first
  let indent := known.getD (max (max deepest (parent + 1)) 1)
  let (progress, behind) ←
    readLines literal indent steps ⟨[], [], breaks, false⟩ body
  let ending :=
    match chomping with
    | .strip => []
    | .clip => progress.lastBreak
    | .keep => progress.lastBreak ++ progress.emptyBreaks
  .ok (progress.done.reverse ++ ending, behind)

end Yaml
end ApiClientGen

import ApiClientGen.Yaml.FlowScalar
import ApiClientGen.Yaml.Token

/-!
# Anchors, aliases, tags and directives
-/

namespace ApiClientGen
namespace Yaml

/-- Reads the name of an anchor or an alias behind its indicator. -/
def readName (cursor : Cursor) : Except Fault (String × Cursor) :=
  let name := cursor.rest.takeWhile isWordChar
  let behind := cursor.skip name.length
  let ends :=
    match behind.head? with
    | none => true
    | some c =>
      isGapOrEnd (some c) || ['?', ':', ',', ']', '}', '%', '@', '`'].contains c
  if name.isEmpty || !ends then .error .invalidAnchor
  else .ok (String.ofList name, behind)

/-! ## Tags -/

/-- Whether `c` may stand in a tag.  Some indicators of flow collections may
stand in it only between angle brackets and in a directive. -/
def isTagChar (bracketed : Bool) (c : Char) : Bool :=
  isWordChar c ||
    [';', '/', '?', ':', '@', '&', '=', '+', '$', '.', '%', '!', '~', '*', '\'',
      '(', ')'].contains c || (bracketed && [',', '[', ']'].contains c)

/-- The bytes that a run of escapes `%XX` at the front stands for, and the
number of escapes. -/
def percentBytes : List Char → Option (List UInt8)
  | '%' :: a :: b :: rest =>
    match Json.hexValue? a, Json.hexValue? b with
    | some high, some low =>
      (percentBytes rest).map (UInt8.ofNat (high * 16 + low) :: ·)
    | _, _ => none
  | '%' :: _ => none
  | _ => some []

/-- The text of a tag with its escapes decoded. -/
def decodeTag : Nat → List Char → Option (List Char)
  | 0, _ => some []
  | _ + 1, [] => some []
  | steps + 1, c :: rest =>
    if c == '%' then
      match percentBytes (c :: rest) with
      | none => none
      | some bytes =>
        match String.fromUTF8? (ByteArray.mk bytes.toArray) with
        | none => none
        | some text =>
          (decodeTag steps ((c :: rest).drop (3 * bytes.length))).map
            (text.toList ++ ·)
    else (decodeTag steps rest).map (c :: ·)

/-- Reads the text of a tag.  It must not be empty unless a handle stands in
front. -/
def readTagText (bracketed mayBeEmpty : Bool) (cursor : Cursor) :
    Except Fault (List Char × Cursor) :=
  let raw := cursor.rest.takeWhile (isTagChar bracketed)
  match decodeTag (raw.length + 1) raw with
  | none => .error .invalidTag
  | some text =>
    if text.isEmpty && !mayBeEmpty then .error .invalidTag
    else .ok (text, cursor.skip raw.length)

/-- The longest tag handle at the front: `!`, or a word between two `!`, or only
the start of one. -/
def handleAt (cs : List Char) : List Char :=
  match cs with
  | '!' :: rest =>
    let word := rest.takeWhile isWordChar
    let closing :=
      if (rest.drop word.length).head? == some '!' then ['!'] else []
    '!' :: word ++ closing
  | _ => []

/-- Reads a tag from its `!` on. -/
def readTag (inFlow : Bool) (cursor : Cursor) :
    Except Fault (Token × Cursor) := do
  let (token, behind) ←
    if cursor.at? 1 == some '<' then do
      let (text, behind) ← readTagText true false (cursor.skip 2)
      if behind.head? == some '>' then
        .ok (Token.tag "" (String.ofList text), behind.skip 1)
      else .error .invalidTag
    else
      let handle := handleAt cursor.rest
      if handle.length > 1 && handle.getLast? == some '!' then do
        let (text, behind) ← readTagText false false (cursor.skip handle.length)
        .ok (Token.tag (String.ofList handle) (String.ofList text), behind)
      else do
        let (text, behind) ← readTagText false true (cursor.skip handle.length)
        let suffix := handle.drop 1 ++ text
        if suffix.isEmpty then .ok (Token.tag "" "!", behind)
        else .ok (Token.tag "!" (String.ofList suffix), behind)
  if isGapOrEnd behind.head? || (inFlow && behind.head? == some ',') then
    .ok (token, behind)
  else .error .invalidTag

/-! ## Directives -/

/-- Reads one of the two numbers of a version, which has at most nine digits. -/
def readVersionNumber (cursor : Cursor) : Except Fault (Nat × Cursor) :=
  let digits := cursor.rest.takeWhile Char.isDigit
  if digits.isEmpty || digits.length > 9 then .error .invalidDirective
  else
    .ok (digits.foldl (fun n c => n * 10 + (c.toNat - '0'.toNat)) 0,
      cursor.skip digits.length)

/-- Reads a version behind the name of its directive. -/
def readVersion (cursor : Cursor) : Except Fault (Token × Cursor) := do
  let (major, dot) ← readVersionNumber (cursor.skipWhile isSpaceOrTab)
  if dot.head? == some '.' then
    let (minor, behind) ← readVersionNumber (dot.skip 1)
    .ok (.version major minor, behind)
  else .error .invalidDirective

/-- Reads a tag handle and what it stands for behind the name of the
directive. -/
def readTagDirective (cursor : Cursor) : Except Fault (Token × Cursor) := do
  let start := cursor.skipWhile isSpaceOrTab
  let handle := handleAt start.rest
  if handle.isEmpty || !(handle == ['!'] || handle.getLast? == some '!') then
    .error .invalidDirective
  else
    let behind := start.skip handle.length
    if !(behind.head?.map isSpaceOrTab).getD false then .error .invalidDirective
    else
      let (uri, behind) ← readTagText true false (behind.skipWhile isSpaceOrTab)
      if isGapOrEnd behind.head? then
        .ok (.tagHandle (String.ofList handle) (String.ofList uri), behind)
      else .error .invalidDirective

/-- Reads a directive from its `%` on, with the rest of its line. -/
def readDirective (cursor : Cursor) : Except Fault (Token × Cursor) := do
  let start := cursor.skip 1
  let name := start.rest.takeWhile isWordChar
  let behind := start.skip name.length
  if !isGapOrEnd behind.head? then .error .invalidDirective
  else
    let (token, behind) ←
      match String.ofList name with
      | "YAML" => readVersion behind
      | "TAG" => readTagDirective behind
      | _ => .error .invalidDirective
    let next ← behind.skipToLineEnd .invalidDirective
    .ok (token, next)

end Yaml
end ApiClientGen

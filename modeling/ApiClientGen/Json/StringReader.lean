import ApiClientGen.Json.NumberReader

/-!
# Reading JSON strings

The text between two quotes, with its escapes.  A character outside the first
65536 is escaped as a pair of surrogates, and half a pair is refused.
-/

namespace ApiClientGen
namespace Json

def hexValue? (c : Char) : Option Nat :=
  if '0' ≤ c && c ≤ '9' then some (c.toNat - '0'.toNat)
  else if 'a' ≤ c && c ≤ 'f' then some (c.toNat - 'a'.toNat + 10)
  else if 'A' ≤ c && c ≤ 'F' then some (c.toNat - 'A'.toNat + 10)
  else none

/-- The number written by four hexadecimal digits. -/
def fourHexDigits? : List Char → Option (Nat × List Char)
  | a :: b :: c :: d :: rest =>
    match hexValue? a, hexValue? b, hexValue? c, hexValue? d with
    | some a, some b, some c, some d =>
      some (((a * 16 + b) * 16 + c) * 16 + d, rest)
    | _, _, _, _ => none
  | _ => none

/-- Reads the four digits of an escape.  Four bytes are taken, whatever they
are, and as many have to be left. -/
def readHexEscape (cs : List Char) : Except Fault (Nat × List Char) :=
  if byteLength (cs.take 4) < 4 then .error (faultHere .endInString [])
  else
    match fourHexDigits? cs with
    | some result => .ok result
    | none => .error (faultAt .invalidEscape cs 4)

/-- Whether `n` is the first half of a surrogate pair. -/
def isHighSurrogate (n : Nat) : Bool :=
  0xD800 ≤ n && n ≤ 0xDBFF

/-- Whether `n` is the second half of a surrogate pair. -/
def isLowSurrogate (n : Nat) : Bool :=
  0xDC00 ≤ n && n ≤ 0xDFFF

def surrogatePair (high low : Nat) : Char :=
  Char.ofNat ((high - 0xD800) * 0x400 + (low - 0xDC00) + 0x10000)

/-- Reads the second half of a surrogate pair, from the backslash of its escape
on. -/
def readLowSurrogate (high : Nat) : Reader Char
  | [] => .error (faultHere .endInString [])
  | '\\' :: 'u' :: rest => do
    let (low, rest) ← readHexEscape rest
    if isLowSurrogate low then .ok (surrogatePair high low, rest)
    else .error (faultHere .unpairedSurrogate rest)
  | ['\\'] => .error (faultHere .endInString [])
  | '\\' :: rest => .error (faultAt .unfinishedSurrogatePair rest 1)
  | rest => .error (faultAt .unfinishedSurrogatePair rest 1)

/-- Reads an escape by code point, behind its letter. -/
def readCodePoint (cs : List Char) : Except Fault (Char × List Char) := do
  let (n, rest) ← readHexEscape cs
  if isLowSurrogate n then .error (faultHere .unpairedSurrogate rest)
  else if isHighSurrogate n then readLowSurrogate n rest
  else .ok (Char.ofNat n, rest)

/-- The character that a letter stands for behind a backslash. -/
def letterEscape? (c : Char) : Option Char :=
  match c with
  | '"' => some '"'
  | '\\' => some '\\'
  | '/' => some '/'
  | 'b' => some '\x08'
  | 'f' => some '\x0C'
  | 'n' => some '\n'
  | 'r' => some '\r'
  | 't' => some '\t'
  | _ => none

def readEscape : Reader Char
  | [] => .error (faultHere .endInString [])
  | 'u' :: rest => readCodePoint rest
  | c :: rest =>
    match letterEscape? c with
    | some escaped => .ok (escaped, rest)
    | none => .error (faultAt .invalidEscape (c :: rest) 1)

/-- Reads a string behind its opening quote.  Every step takes a character, so a
step more than there are characters suffices.  `done` holds the characters read,
last first. -/
def readStringSteps : Nat → List Char → Reader String
  | 0, _, _ => .error (faultHere .endInString [])
  | _ + 1, _, [] => .error (faultHere .endInString [])
  | _ + 1, done, '"' :: rest => .ok (String.ofList done.reverse, rest)
  | steps + 1, done, '\\' :: rest => do
    let (c, rest) ← readEscape rest
    readStringSteps steps (c :: done) rest
  | steps + 1, done, c :: rest =>
    if c.toNat < 0x20 then .error (faultHere .controlCharacter rest)
    else readStringSteps steps (c :: done) rest

/-- Reads a string behind its opening quote.  There are fewer than `steps`
characters left. -/
def readString (steps : Nat) : Reader String :=
  readStringSteps steps []

end Json
end ApiClientGen

import ApiClientGen.Json.StringReader
import ApiClientGen.OrderedMap

/-!
# Reading JSON texts

A text holds one value with blanks around it.  Arrays and objects may be nested
127 deep.  A key that occurs twice in an object keeps its first place and its
last value.
-/

namespace ApiClientGen
namespace Json

/-- Whether `c` is one of the four blanks of the format. -/
def isJsonBlank (c : Char) : Bool :=
  c == ' ' || c == '\n' || c == '\t' || c == '\r'

def skipBlanks (cs : List Char) : List Char :=
  cs.dropWhile isJsonBlank

/-- Reads the characters of a word one by one. -/
def readWord (value : Value) : List Char → Reader Value
  | [], rest => .ok (value, rest)
  | _ :: _, [] => .error (faultHere .endInValue [])
  | expected :: word, c :: rest =>
    if c = expected then readWord value word rest
    else .error (faultAt .expectedWord (c :: rest) 1)

def readColon (cs : List Char) : Except Fault (List Char) :=
  match skipBlanks cs with
  | [] => .error (faultNext .endInObject [])
  | ':' :: rest => .ok rest
  | rest => .error (faultNext .expectedColon rest)

/-- The number of levels to which arrays and objects nest. -/
def maxDepth : Nat := 127

mutual
/-- Reads a value that may hold `depth` levels of arrays and objects. -/
def readValue : Nat → Nat → Reader Value
  | 0, _, cs => .error (faultNext .expectedValue cs)
  | steps + 1, depth, cs =>
    match skipBlanks cs with
    | [] => .error (faultNext .endInValue [])
    | 'n' :: rest => readWord .null ['u', 'l', 'l'] rest
    | 't' :: rest => readWord (.bool true) ['r', 'u', 'e'] rest
    | 'f' :: rest => readWord (.bool false) ['a', 'l', 's', 'e'] rest
    | '"' :: rest => do
      let (text, rest) ← readString steps rest
      .ok (.string text, rest)
    | '[' :: rest =>
      match depth with
      | 0 => .error (faultNext .tooDeep ('[' :: rest))
      | depth + 1 => do
        let (items, rest) ← readItems steps depth true [] rest
        .ok (.array items, rest)
    | '{' :: rest =>
      match depth with
      | 0 => .error (faultNext .tooDeep ('{' :: rest))
      | depth + 1 => do
        let (fields, rest) ← readFields steps depth true [] rest
        .ok (.object fields, rest)
    | c :: rest =>
      if c = '-' || Text.isAsciiDigit c then do
        let (number, rest) ← readNumber (c :: rest)
        .ok (.number number, rest)
      else .error (faultNext .expectedValue (c :: rest))

/-- Reads the items of an array up to its bracket, after those in `done`, which
are last first. -/
def readItems : Nat → Nat → Bool → List Value → Reader (List Value)
  | 0, _, _, _, cs => .error (faultNext .endInList cs)
  | steps + 1, depth, isFirst, done, cs =>
    match skipBlanks cs with
    | [] => .error (faultNext .endInList [])
    | ']' :: rest => .ok (done.reverse, rest)
    | rest =>
      if isFirst then readItem steps depth done rest
      else
        match rest with
        | ',' :: rest =>
          match skipBlanks rest with
          | [] => .error (faultNext .endInValue [])
          | ']' :: rest => .error (faultNext .trailingComma (']' :: rest))
          | rest => readItem steps depth done rest
        | rest => .error (faultNext .expectedCommaOrBracket rest)

def readItem : Nat → Nat → List Value → Reader (List Value)
  | 0, _, _, cs => .error (faultNext .endInList cs)
  | steps + 1, depth, done, cs => do
    let (item, rest) ← readValue steps depth cs
    readItems steps depth false (item :: done) rest

/-- Reads the fields of an object up to its brace, after those in `done`. -/
def readFields :
    Nat → Nat → Bool → List (String × Value) → Reader (List (String × Value))
  | 0, _, _, _, cs => .error (faultNext .endInObject cs)
  | steps + 1, depth, isFirst, done, cs =>
    match skipBlanks cs with
    | [] => .error (faultNext .endInObject [])
    | '}' :: rest => .ok (done, rest)
    | rest =>
      if isFirst then readField steps depth done rest
      else
        match rest with
        | ',' :: rest =>
          match skipBlanks rest with
          | [] => .error (faultNext .endInValue [])
          | '}' :: rest => .error (faultNext .trailingComma ('}' :: rest))
          | rest => readField steps depth done rest
        | rest => .error (faultNext .expectedCommaOrBrace rest)

def readField :
    Nat → Nat → List (String × Value) → Reader (List (String × Value))
  | 0, _, _, cs => .error (faultNext .endInObject cs)
  | steps + 1, depth, done, cs =>
    match cs with
    | '"' :: rest => do
      let (key, rest) ← readString steps rest
      let rest ← readColon rest
      let (value, rest) ← readValue steps depth rest
      readFields steps depth false (putEntry key value done) rest
    | rest => .error (faultNext .keyNotString rest)
end

/-- Reads a text that holds one value.  Each value, item and field takes at most
three steps and at least one character, so there are always more steps than
characters left. -/
def read (cs : List Char) : Except Fault Value := do
  let (value, rest) ← readValue (3 * cs.length + 3) maxDepth cs
  match skipBlanks rest with
  | [] => .ok value
  | rest => .error (faultNext .trailingCharacters rest)

/-- Reads a text; the error is its wording, with the position. -/
def parse (text : String) : Except String Value :=
  (read text.toList).mapError (·.message text.toList)

end Json
end ApiClientGen

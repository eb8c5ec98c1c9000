/-!
# Syntax errors of JSON texts

What can be wrong with a JSON text, and where.  A reader knows what is left of
the text when it stops, so a fault counts the bytes that are left; the line and
the column follow from the text.
-/

namespace ApiClientGen
namespace Json

/-- What is wrong with a JSON text. -/
inductive Cause where
  | endInValue
  | endInList
  | endInObject
  | endInString
  | expectedValue
  | expectedWord
  | invalidNumber
  | numberOutOfRange
  | invalidEscape
  | unpairedSurrogate
  | unfinishedSurrogatePair
  | controlCharacter
  | expectedCommaOrBracket
  | expectedCommaOrBrace
  | expectedColon
  | keyNotString
  | trailingComma
  | trailingCharacters
  | tooDeep
deriving Repr, DecidableEq

def Cause.message : Cause → String
  | .endInValue => "EOF while parsing a value"
  | .endInList => "EOF while parsing a list"
  | .endInObject => "EOF while parsing an object"
  | .endInString => "EOF while parsing a string"
  | .expectedValue => "expected value"
  | .expectedWord => "expected ident"
  | .invalidNumber => "invalid number"
  | .numberOutOfRange => "number out of range"
  | .invalidEscape => "invalid escape"
  | .unpairedSurrogate => "lone leading surrogate in hex escape"
  | .unfinishedSurrogatePair => "unexpected end of hex escape"
  | .controlCharacter =>
    "control character (\\u0000-\\u001F) found while parsing a string"
  | .expectedCommaOrBracket => "expected `,` or `]`"
  | .expectedCommaOrBrace => "expected `,` or `\x7d`"
  | .expectedColon => "expected `:`"
  | .keyNotString => "key must be a string"
  | .trailingComma => "trailing comma"
  | .trailingCharacters => "trailing characters"
  | .tooDeep => "recursion limit exceeded"

/-- A cause and the number of bytes of the text that come after it. -/
structure Fault where
  cause : Cause
  bytesLeft : Nat
deriving Repr, DecidableEq

def byteLength (cs : List Char) : Nat :=
  cs.foldr (fun c bytes => c.utf8Size + bytes) 0

/-- A cause after `advance` more bytes than the text in front of `rest`. -/
def faultAt (cause : Cause) (rest : List Char) (advance : Nat) : Fault :=
  ⟨cause, byteLength rest - advance⟩

/-- A cause in front of `rest`. -/
def faultHere (cause : Cause) (rest : List Char) : Fault :=
  faultAt cause rest 0

/-- A cause after the next byte, or at the end of the text if there is none. -/
def faultNext (cause : Cause) (rest : List Char) : Fault :=
  faultAt cause rest 1

/-- A line, counted from one, and the number of bytes before the place in it. -/
structure Position where
  line : Nat
  column : Nat
deriving Repr, DecidableEq

/-- The position after `bytes` bytes of a text that starts at the given
position. -/
def Position.advance (position : Position) : List Char → Nat → Position
  | [], _ => position
  | c :: rest, bytes =>
    if bytes < c.utf8Size then
      { position with column := position.column + bytes }
    else
      let next : Position :=
        if c = '\n' then ⟨position.line + 1, 0⟩
        else { position with column := position.column + c.utf8Size }
      next.advance rest (bytes - c.utf8Size)

/-- The position of a fault in the whole text. -/
def Fault.position (fault : Fault) (text : List Char) : Position :=
  Position.advance ⟨1, 0⟩ text (byteLength text - fault.bytesLeft)

/-- The wording of a fault with its position in the whole text. -/
def Fault.message (fault : Fault) (text : List Char) : String :=
  let position := fault.position text
  fault.cause.message ++ " at line " ++ toString position.line ++ " column "
    ++ toString position.column

end Json
end ApiClientGen

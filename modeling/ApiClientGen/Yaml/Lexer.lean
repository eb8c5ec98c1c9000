import ApiClientGen.Yaml.BlockScalar
import ApiClientGen.Yaml.Property

/-!
# From a YAML text to its tokens

The lexer follows the indentation.  A deeper column opens a block collection and
a shallower one closes it.  A node may turn out to be the key of a mapping only
when its colon is met, so the lexer remembers where the last candidate on each
level of flow collections starts and puts the missing tokens there.
-/

namespace ApiClientGen
namespace Yaml

/-- A node that is a key if a colon follows it on the same line. -/
structure Candidate where
  /-- The number of tokens in front of the node. -/
  position : Nat
  /-- Whether the node has to be a key, since it starts at the column of a block
  mapping. -/
  required : Bool
  index : Nat
  line : Nat
  column : Nat
deriving Repr

/-- How far a text has been cut into tokens. -/
structure Lexer where
  cursor : Cursor
  tokens : List Token
  /-- The number of tokens. -/
  count : Nat
  /-- The column of the block collection, or `-1` outside of all. -/
  indent : Int
  /-- The columns of the block collections around it. -/
  outerIndents : List Int
  /-- The candidate for a key on this level of flow collections. -/
  candidate : Option Candidate
  /-- The candidates on the levels around it, one for each flow collection that
  is open. -/
  outerCandidates : List (Option Candidate)
  /-- Whether a node that starts here may be a key. -/
  keyAllowed : Bool
deriving Repr

namespace Lexer

def start (text : List Char) : Lexer :=
  { cursor := .start text
    tokens := []
    count := 0
    indent := -1
    outerIndents := []
    candidate := none
    outerCandidates := []
    keyAllowed := true }

/-- Whether a flow collection is open. -/
def inFlow (lexer : Lexer) : Bool :=
  !lexer.outerCandidates.isEmpty

def emit (lexer : Lexer) (token : Token) : Lexer :=
  { lexer with tokens := token :: lexer.tokens, count := lexer.count + 1 }

/-- Puts a token in front of all but the first `position` tokens. -/
def emitAt (lexer : Lexer) (position : Nat) (token : Token) : Lexer :=
  let behind := lexer.count - position
  { lexer with
    tokens := lexer.tokens.take behind ++ token :: lexer.tokens.drop behind
    count := lexer.count + 1 }

/-- Opens a block collection at a column that is deeper than the current one.
Its token stands in front of all but the first `position` tokens. -/
def openBlock (lexer : Lexer) (column : Nat) (position : Nat) (token : Token) :
    Lexer :=
  if lexer.inFlow || (column : Int) ≤ lexer.indent then lexer
  else
    { lexer.emitAt position token with
      indent := column
      outerIndents := lexer.indent :: lexer.outerIndents }

/-- Closes the block collections that are deeper than a column, given those
around the current one. -/
def closeBlocksIn (column : Int) : List Int → Lexer → Lexer
  | [], lexer => lexer
  | outer :: others, lexer =>
    if lexer.indent ≤ column then lexer
    else closeBlocksIn column others
      { lexer.emit .blockEnd with indent := outer, outerIndents := others }

/-- Closes the block collections that are deeper than a column. -/
def closeBlocks (lexer : Lexer) (column : Int) : Lexer :=
  if lexer.inFlow then lexer else closeBlocksIn column lexer.outerIndents lexer

/-- Drops the candidate of this level.  A node that had to be a key is a
fault. -/
def dropCandidate (lexer : Lexer) : Except Fault Lexer :=
  match lexer.candidate with
  | some candidate =>
    if candidate.required then .error .missingColon
    else .ok { lexer with candidate := none }
  | none => .ok lexer

/-- Makes the node that starts here the candidate of this level, if it may be a
key. -/
def saveCandidate (lexer : Lexer) : Except Fault Lexer :=
  if lexer.keyAllowed then do
    let cleared ← lexer.dropCandidate
    .ok { cleared with
      candidate := some
        { position := lexer.count
          required :=
            !lexer.inFlow && lexer.indent == (lexer.cursor.column : Int)
          index := lexer.cursor.index
          line := lexer.cursor.line
          column := lexer.cursor.column } }
  else .ok lexer

/-- The greatest length of a key in characters. -/
def maxKeyLength : Nat := 1024

/-- Whether a candidate has been left behind: by a line break, or because it is
too long. -/
def isStale (cursor : Cursor) (candidate : Candidate) : Bool :=
  candidate.line < cursor.line || candidate.index + maxKeyLength < cursor.index

/-- A candidate unless it has been left behind. -/
def freshCandidate (cursor : Cursor) :
    Option Candidate → Except Fault (Option Candidate)
  | none => .ok none
  | some candidate =>
    if isStale cursor candidate then
      if candidate.required then .error .missingColon else .ok none
    else .ok (some candidate)

/-- Forgets the candidates that have been left behind. -/
def refreshCandidates (lexer : Lexer) : Except Fault Lexer := do
  let candidate ← freshCandidate lexer.cursor lexer.candidate
  let outerCandidates ← lexer.outerCandidates.mapM (freshCandidate lexer.cursor)
  .ok { lexer with candidate := candidate, outerCandidates := outerCandidates }

/-- Goes over blanks, comments and line breaks.  In block context a line break
allows a key, and tabs do not count as blanks where a key is allowed. -/
def skipToToken : Nat → Lexer → Lexer
  | 0, lexer => lexer
  | steps + 1, lexer =>
    let tabs := lexer.inFlow || !lexer.keyAllowed
    let blank := lexer.cursor.skipWhile fun c => c == ' ' || (tabs && c == '\t')
    let behind :=
      if blank.head? == some '#' then blank.skipWhile (!isBreak ·) else blank
    if (behind.head?.map isBreak).getD false then
      skipToToken steps
        { lexer with
          cursor := behind.skipBreak
          keyAllowed := lexer.keyAllowed || !lexer.inFlow }
    else { lexer with cursor := behind }

/-- Adds a token and goes over its characters. -/
def take (lexer : Lexer) (token : Token) (length : Nat) : Lexer :=
  { lexer.emit token with cursor := lexer.cursor.skip length }

def takeDocumentMark (lexer : Lexer) (token : Token) : Except Fault Lexer := do
  let closed ← (lexer.closeBlocks (-1)).dropCandidate
  .ok { closed.take token 3 with keyAllowed := false }

def takeDirective (lexer : Lexer) : Except Fault Lexer := do
  let closed ← (lexer.closeBlocks (-1)).dropCandidate
  let (token, behind) ← readDirective closed.cursor
  .ok { closed.emit token with cursor := behind, keyAllowed := false }

def takeFlowStart (lexer : Lexer) (token : Token) : Except Fault Lexer := do
  let saved ← lexer.saveCandidate
  .ok { saved.take token 1 with
    candidate := none
    outerCandidates := saved.candidate :: saved.outerCandidates
    keyAllowed := true }

def takeFlowEnd (lexer : Lexer) (token : Token) : Except Fault Lexer := do
  let cleared ← lexer.dropCandidate
  let outer :=
    match cleared.outerCandidates with
    | candidate :: others =>
      { cleared with candidate := candidate, outerCandidates := others }
    | [] => cleared
  .ok { outer.take token 1 with keyAllowed := false }

def takeFlowEntry (lexer : Lexer) : Except Fault Lexer := do
  let cleared ← lexer.dropCandidate
  .ok { cleared.take .flowEntry 1 with keyAllowed := true }

def takeBlockEntry (lexer : Lexer) : Except Fault Lexer := do
  if !lexer.inFlow && !lexer.keyAllowed then .error .misplacedEntry
  else
    let opened :=
      lexer.openBlock lexer.cursor.column lexer.count .blockSequenceStart
    let cleared ← opened.dropCandidate
    .ok { cleared.take .blockEntry 1 with keyAllowed := true }

def takeKey (lexer : Lexer) : Except Fault Lexer := do
  if !lexer.inFlow && !lexer.keyAllowed then .error .misplacedKey
  else
    let opened :=
      lexer.openBlock lexer.cursor.column lexer.count .blockMappingStart
    let cleared ← opened.dropCandidate
    .ok { cleared.take .key 1 with keyAllowed := !lexer.inFlow }

/-- Takes the colon of a value.  If there is a candidate, it becomes a key. -/
def takeValue (lexer : Lexer) : Except Fault Lexer :=
  match lexer.candidate with
  | some candidate =>
    let keyed := lexer.emitAt candidate.position .key
    let opened :=
      keyed.openBlock candidate.column candidate.position .blockMappingStart
    .ok { opened.take .value 1 with candidate := none, keyAllowed := false }
  | none =>
    if !lexer.inFlow && !lexer.keyAllowed then .error .misplacedValue
    else
      let opened :=
        lexer.openBlock lexer.cursor.column lexer.count .blockMappingStart
      .ok { opened.take .value 1 with keyAllowed := !lexer.inFlow }

def takeName (lexer : Lexer) (token : String → Token) : Except Fault Lexer := do
  let saved ← lexer.saveCandidate
  let (name, behind) ← readName (saved.cursor.skip 1)
  .ok { saved.emit (token name) with cursor := behind, keyAllowed := false }

def takeTag (lexer : Lexer) : Except Fault Lexer := do
  let saved ← lexer.saveCandidate
  let (token, behind) ← readTag saved.inFlow saved.cursor
  .ok { saved.emit token with cursor := behind, keyAllowed := false }

def takeBlockScalar (lexer : Lexer) (steps : Nat) (literal : Bool) :
    Except Fault Lexer := do
  let cleared ← lexer.dropCandidate
  let (text, behind) ← readBlock literal cleared.indent steps cleared.cursor
  .ok { cleared.emit (.scalar (String.ofList text) false) with
    cursor := behind, keyAllowed := true }

def takeQuoted (lexer : Lexer) (steps : Nat) (isSingle : Bool) :
    Except Fault Lexer := do
  let saved ← lexer.saveCandidate
  let (text, behind) ← readQuoted isSingle steps saved.cursor
  .ok { saved.emit (.scalar (String.ofList text) false) with
    cursor := behind, keyAllowed := false }

def takePlain (lexer : Lexer) (steps : Nat) : Except Fault Lexer := do
  let saved ← lexer.saveCandidate
  let plain ← readPlain saved.inFlow (saved.indent + 1) steps saved.cursor
  .ok { saved.emit (.scalar (String.ofList plain.text) true) with
    cursor := plain.cursor
    keyAllowed := plain.lineEnded }

/-- The characters that start no plain scalar. -/
def indicators : List Char :=
  ['-', '?', ':', ',', '[', ']', '{', '}', '#', '&', '*', '!', '|', '>', '\'',
    '"', '%', '@', '`']

/-- Whether a plain scalar starts with `c` when `next` follows. -/
def startsPlain (inFlow : Bool) (c : Char) (next : Option Char) : Bool :=
  !(isGapOrEnd (some c) || indicators.contains c) ||
    (c == '-' && !(next.map isSpaceOrTab).getD false) ||
    (!inFlow && (c == '?' || c == ':') && !isGapOrEnd next)

/-- Takes the token that starts with `c`.  There are fewer than `steps`
characters left. -/
def takeToken (lexer : Lexer) (steps : Nat) (c : Char) : Except Fault Lexer :=
  let next := lexer.cursor.at? 1
  let setOff := isGapOrEnd next
  if lexer.cursor.column == 0 && c == '%' then lexer.takeDirective
  else if lexer.cursor.atMark '-' then lexer.takeDocumentMark .documentStart
  else if lexer.cursor.atMark '.' then lexer.takeDocumentMark .documentEnd
  else if c == '[' then lexer.takeFlowStart .flowSequenceStart
  else if c == '{' then lexer.takeFlowStart .flowMappingStart
  else if c == ']' then lexer.takeFlowEnd .flowSequenceEnd
  else if c == '}' then lexer.takeFlowEnd .flowMappingEnd
  else if c == ',' then lexer.takeFlowEntry
  else if c == '-' && setOff then lexer.takeBlockEntry
  else if c == '?' && (lexer.inFlow || setOff) then lexer.takeKey
  else if c == ':' && (lexer.inFlow || setOff) then lexer.takeValue
  else if c == '*' then lexer.takeName .alias
  else if c == '&' then lexer.takeName .anchor
  else if c == '!' then lexer.takeTag
  else if c == '|' && !lexer.inFlow then lexer.takeBlockScalar steps true
  else if c == '>' && !lexer.inFlow then lexer.takeBlockScalar steps false
  else if c == '\'' then lexer.takeQuoted steps true
  else if c == '"' then lexer.takeQuoted steps false
  else if startsPlain lexer.inFlow c next then lexer.takePlain steps
  else .error .unexpectedCharacter

def takeEnd (lexer : Lexer) : Except Fault Lexer :=
  (lexer.closeBlocks (-1)).dropCandidate

/-- Takes all tokens.  Each takes at least one character, so there are always
fewer than `steps` characters left. -/
def takeAll : Nat → Lexer → Except Fault Lexer
  | 0, _ => .error .unexpectedCharacter
  | steps + 1, lexer => do
    let there ← (skipToToken (steps + 1) lexer).refreshCandidates
    let closed := there.closeBlocks there.cursor.column
    match closed.cursor.head? with
    | none => closed.takeEnd
    | some c =>
      let next ← closed.takeToken (steps + 1) c
      takeAll steps next

end Lexer

def tokens (text : List Char) : Except Fault (List Token) :=
  if text.all isAllowed then
    (Lexer.takeAll (text.length + 1) (Lexer.start text)).map (·.tokens.reverse)
  else .error .forbiddenCharacter

end Yaml
end ApiClientGen

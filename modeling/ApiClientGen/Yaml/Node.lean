import ApiClientGen.Yaml.Fault
import ApiClientGen.Yaml.Token

/-!
# The nodes of a YAML document

A document is a tree of scalars, sequences, mappings and aliases.  The tree is
read from the tokens by the grammar of the format; what aliases and tags mean is
decided later.
-/

namespace ApiClientGen
namespace Yaml

/-- What may stand in front of a node. -/
structure Properties where
  anchor : Option String
  /-- The tag with its handle resolved. -/
  tag : Option String
deriving Repr, DecidableEq

def Properties.none : Properties :=
  ⟨Option.none, Option.none⟩

/-- A node of a document, in which an alias is given by a value of type `α`. -/
inductive Node (α : Type) where
  | alias (target : α)
  | scalar (properties : Properties) (text : String) (plain : Bool)
  | sequence (properties : Properties) (items : List (Node α))
  | mapping (properties : Properties) (entries : List (Node α × Node α))
deriving Repr

/-- A node as it is written: its aliases are names. -/
abbrev NamedNode : Type :=
  Node String

/-- The node that stands for nothing. -/
def Node.missing : NamedNode :=
  .scalar .none "" true

/-- What tag handles stand for. -/
abbrev Handles : Type :=
  List (String × String)

/-- The handles that need no directive. -/
def defaultHandles : Handles :=
  [("!", "!"), ("!!", "tag:yaml.org,2002:")]

/-- A tag with its handle resolved.  A tag without a handle is complete. -/
def resolveTag (handles : Handles) (handle suffix : String) :
    Except Fault String :=
  if handle = "" then .ok suffix
  else
    match handles.lookup handle with
    | some uri => .ok (uri ++ suffix)
    | none => .error .undefinedTagHandle

/-- Reads the properties in front of a node: an anchor and a tag, in either
order. -/
def readProperties (handles : Handles) :
    List Token → Except Fault (Properties × List Token)
  | .anchor name :: .tag handle suffix :: rest => do
    let tag ← resolveTag handles handle suffix
    .ok (⟨some name, some tag⟩, rest)
  | .tag handle suffix :: .anchor name :: rest => do
    let tag ← resolveTag handles handle suffix
    .ok (⟨some name, some tag⟩, rest)
  | .anchor name :: rest => .ok (⟨some name, none⟩, rest)
  | .tag handle suffix :: rest => do
    let tag ← resolveTag handles handle suffix
    .ok (⟨none, some tag⟩, rest)
  | rest => .ok (.none, rest)

/-- The properties of a scalar: the tag `!` says nothing about it. -/
def scalarProperties (properties : Properties) : Properties :=
  if properties.tag = some "!" then { properties with tag := none }
  else properties

/-- Where a node stands in the grammar. -/
inductive Context where
  | flow
  | block
  /-- In a block mapping, where a sequence needs no indentation. -/
  | mapping
deriving Repr, DecidableEq

/-- Whether a node is missing in front of this token in a block mapping. -/
def endsMappingNode : Option Token → Bool
  | some .key => true
  | some .value => true
  | some .blockEnd => true
  | none => true
  | _ => false

/-- Whether a node is missing in front of this token in a block sequence. -/
def endsSequenceNode : Option Token → Bool
  | some .blockEntry => true
  | some .blockEnd => true
  | none => true
  | _ => false

/-- Whether a node is missing in front of this token in a sequence without
indentation. -/
def endsPlainSequenceNode : Option Token → Bool
  | some .blockEntry => true
  | token => endsMappingNode token

mutual
def readNode (handles : Handles) :
    Nat → Context → List Token → Except Fault (NamedNode × List Token)
  | 0, _, _ => .error .unexpectedToken
  | _ + 1, _, .alias name :: rest => .ok (.alias name, rest)
  | steps + 1, context, input => do
    let (properties, rest) ← readProperties handles input
    match context, rest with
    | .mapping, .blockEntry :: _ => do
      let (items, rest) ← readPlainSequence handles steps rest
      .ok (.sequence properties items, rest)
    | _, .scalar text plain :: rest =>
      .ok (.scalar (scalarProperties properties) text plain, rest)
    | _, .flowSequenceStart :: rest => do
      let (items, rest) ← readFlowSequence handles steps true rest
      .ok (.sequence properties items, rest)
    | _, .flowMappingStart :: rest => do
      let (entries, rest) ← readFlowMapping handles steps true rest
      .ok (.mapping properties entries, rest)
    | .flow, rest => emptyNode properties rest
    | _, .blockSequenceStart :: rest => do
      let (items, rest) ← readBlockSequence handles steps rest
      .ok (.sequence properties items, rest)
    | _, .blockMappingStart :: rest => do
      let (entries, rest) ← readBlockMapping handles steps rest
      .ok (.mapping properties entries, rest)
    | _, rest => emptyNode properties rest

/-- Reads a node that has only properties. -/
def emptyNode (properties : Properties) (rest : List Token) :
    Except Fault (NamedNode × List Token) :=
  if properties = Properties.none then .error .unexpectedToken
  else .ok (.scalar properties "" true, rest)

def readBlockSequence (handles : Handles) :
    Nat → List Token → Except Fault (List NamedNode × List Token)
  | 0, _ => .error .unexpectedToken
  | _ + 1, .blockEnd :: rest => .ok ([], rest)
  | steps + 1, .blockEntry :: rest => do
    let (item, rest) ←
      if endsSequenceNode rest.head? then .ok (Node.missing, rest)
      else readNode handles steps .block rest
    let (items, rest) ← readBlockSequence handles steps rest
    .ok (item :: items, rest)
  | _, _ => .error .unexpectedToken

/-- Reads the items of a sequence without indentation. -/
def readPlainSequence (handles : Handles) :
    Nat → List Token → Except Fault (List NamedNode × List Token)
  | 0, _ => .error .unexpectedToken
  | steps + 1, .blockEntry :: rest => do
    let (item, rest) ←
      if endsPlainSequenceNode rest.head? then .ok (Node.missing, rest)
      else readNode handles steps .block rest
    let (items, rest) ← readPlainSequence handles steps rest
    .ok (item :: items, rest)
  | _, rest => .ok ([], rest)

def readBlockMapping (handles : Handles) :
    Nat → List Token → Except Fault (List (NamedNode × NamedNode) × List Token)
  | 0, _ => .error .unexpectedToken
  | _ + 1, .blockEnd :: rest => .ok ([], rest)
  | steps + 1, .key :: rest => do
    let (key, rest) ←
      if endsMappingNode rest.head? then .ok (Node.missing, rest)
      else readNode handles steps .mapping rest
    let (value, rest) ←
      match rest with
      | .value :: rest =>
        if endsMappingNode rest.head? then .ok (Node.missing, rest)
        else readNode handles steps .mapping rest
      | rest => .ok (Node.missing, rest)
    let (entries, rest) ← readBlockMapping handles steps rest
    .ok ((key, value) :: entries, rest)
  | _, _ => .error .unexpectedToken

/-- Reads the items of a flow sequence.  An item with a key is a mapping of one
entry. -/
def readFlowSequence (handles : Handles) :
    Nat → Bool → List Token → Except Fault (List NamedNode × List Token)
  | 0, _, _ => .error .unexpectedToken
  | _ + 1, _, .flowSequenceEnd :: rest => .ok ([], rest)
  | steps + 1, isFirst, input => do
    let rest ←
      match isFirst, input with
      | true, rest => .ok rest
      | false, .flowEntry :: rest => .ok rest
      | false, _ => .error .unexpectedToken
    match rest with
    | .flowSequenceEnd :: rest => .ok ([], rest)
    | .key :: rest => do
      let (entry, rest) ← readFlowPair handles steps rest
      let (items, rest) ← readFlowSequence handles steps false rest
      .ok (.mapping .none [entry] :: items, rest)
    | rest => do
      let (item, rest) ← readNode handles steps .flow rest
      let (items, rest) ← readFlowSequence handles steps false rest
      .ok (item :: items, rest)

/-- Reads the one entry of a mapping that is an item of a flow sequence, behind
the mark of its key.  A missing key takes the token behind it, so that the entry
has no value. -/
def readFlowPair (handles : Handles) :
    Nat → List Token → Except Fault ((NamedNode × NamedNode) × List Token)
  | 0, _ => .error .unexpectedToken
  | steps + 1, input => do
    let (key, rest) ←
      match input with
      | .value :: rest => .ok (Node.missing, rest)
      | .flowEntry :: rest => .ok (Node.missing, rest)
      | .flowSequenceEnd :: rest => .ok (Node.missing, rest)
      | rest => readNode handles steps .flow rest
    match rest with
    | .value :: .flowEntry :: rest =>
      .ok ((key, Node.missing), .flowEntry :: rest)
    | .value :: .flowSequenceEnd :: rest =>
      .ok ((key, Node.missing), .flowSequenceEnd :: rest)
    | .value :: rest => do
      let (value, rest) ← readNode handles steps .flow rest
      .ok ((key, value), rest)
    | rest => .ok ((key, Node.missing), rest)

def readFlowMapping (handles : Handles) :
    Nat → Bool → List Token →
      Except Fault (List (NamedNode × NamedNode) × List Token)
  | 0, _, _ => .error .unexpectedToken
  | _ + 1, _, .flowMappingEnd :: rest => .ok ([], rest)
  | steps + 1, isFirst, input => do
    let rest ←
      match isFirst, input with
      | true, rest => .ok rest
      | false, .flowEntry :: rest => .ok rest
      | false, _ => .error .unexpectedToken
    match rest with
    | .flowMappingEnd :: rest => .ok ([], rest)
    | .key :: rest => do
      let (key, rest) ←
        match rest with
        | .value :: _ => .ok (Node.missing, rest)
        | .flowEntry :: _ => .ok (Node.missing, rest)
        | .flowMappingEnd :: _ => .ok (Node.missing, rest)
        | _ => readNode handles steps .flow rest
      let (value, rest) ←
        match rest with
        | .value :: .flowEntry :: rest =>
          .ok (Node.missing, Token.flowEntry :: rest)
        | .value :: .flowMappingEnd :: rest =>
          .ok (Node.missing, Token.flowMappingEnd :: rest)
        | .value :: rest => readNode handles steps .flow rest
        | rest => .ok (Node.missing, rest)
      let (entries, rest) ← readFlowMapping handles steps false rest
      .ok ((key, value) :: entries, rest)
    | rest => do
      let (key, rest) ← readNode handles steps .flow rest
      let (entries, rest) ← readFlowMapping handles steps false rest
      .ok ((key, Node.missing) :: entries, rest)
end

/-! ## Documents -/

structure Directives where
  versionGiven : Bool
  handles : Handles
deriving Repr

/-- Reads the directives in front of a document.  A version and a handle are
given at most once. -/
def readDirectives (directives : Directives) :
    List Token → Except Fault (Directives × List Token)
  | .version major minor :: rest =>
    if directives.versionGiven then .error .repeatedDirective
    else if major = 1 && (minor = 1 || minor = 2) then
      readDirectives { directives with versionGiven := true } rest
    else .error .unsupportedVersion
  | .tagHandle handle uri :: rest =>
    if (directives.handles.lookup handle).isSome then .error .repeatedDirective
    else
      readDirectives { directives with
        handles := directives.handles ++ [(handle, uri)] } rest
  | rest => .ok (directives, rest)

/-- Whether a document without content ends in front of this token. -/
def endsDocument : Option Token → Bool
  | none => true
  | some (.version _ _) => true
  | some (.tagHandle _ _) => true
  | some .documentStart => true
  | some .documentEnd => true
  | _ => false

/-- Reads the first document.  Only the first one may do without directives and
a start mark. -/
def readDocument (input : List Token) :
    Except Fault (NamedNode × List Token) := do
  let steps := 4 * input.length + 4
  match input with
  | .version _ _ :: _ => explicitDocument steps input
  | .tagHandle _ _ :: _ => explicitDocument steps input
  | .documentStart :: _ => explicitDocument steps input
  | _ => readNode defaultHandles steps .block input
where
  /-- Reads a document from its directives or its start mark on. -/
  explicitDocument (steps : Nat) (input : List Token) :
      Except Fault (NamedNode × List Token) := do
    let (directives, rest) ← readDirectives ⟨false, []⟩ input
    match rest with
    | .documentStart :: rest =>
      if endsDocument rest.head? then .ok (Node.missing, rest)
      else readNode (directives.handles ++ defaultHandles) steps .block rest
    | _ => .error .unexpectedToken

/-- The node of the only document, or nothing if there is no document at all. -/
def onlyDocument (input : List Token) : Except Fault (Option NamedNode) :=
  if input.isEmpty then .ok none
  else do
    let (node, rest) ← readDocument input
    if (rest.dropWhile (· == .documentEnd)).isEmpty then .ok (some node)
    else .error .secondDocument

end Yaml
end ApiClientGen

import ApiClientGen.OrderedMap
import ApiClientGen.Yaml.Node
import ApiClientGen.Yaml.ScalarValue

/-!
# From the nodes of a document to its value

Anchors are numbered in the order of the document.  An alias stands for the last
node in the document that has the number which its name has where the alias is
written.  Usually that is the node with its name; it is another one only where a
name is used for two nodes, since the second one gets the number that the next
new name gets as well.

The keys of a mapping are scalars, taken as they are written; a key that occurs
twice keeps its first place and its last value.  The depth of the value and the
number of aliases that are followed are limited.
-/

namespace ApiClientGen
namespace Yaml

open Json (Value)

/-! ## The numbers of anchors -/

/-- A node whose aliases are the numbers of anchors. -/
abbrev NumberedNode : Type :=
  Node Nat

/-- The numbers that names have at a place of the document. -/
abbrev AnchorNumbers : Type :=
  List (String × Nat)

/-- The numbers behind the start of a node with the given properties.  Its name,
new or not, gets the number of names known so far. -/
def AnchorNumbers.enter (numbers : AnchorNumbers) (properties : Properties) :
    AnchorNumbers :=
  match properties.anchor with
  | some name => putEntry name numbers.length numbers
  | none => numbers

/-- The nodes with anchors, by number, in the order of their starts. -/
abbrev AnchoredNodes : Type :=
  List (Nat × NumberedNode)

/-- The entry of a node in the list of nodes with anchors, if it has one. -/
def anchoredEntry (numbers : AnchorNumbers) (properties : Properties)
    (node : NumberedNode) : AnchoredNodes :=
  match properties.anchor with
  | some _ => [(numbers.length, node)]
  | none => []

mutual
/-- Replaces the names of aliases in a node by numbers, and lists the nodes with
anchors. -/
def numberNode (numbers : AnchorNumbers) :
    NamedNode → Except Fault (NumberedNode × AnchoredNodes × AnchorNumbers)
  | .alias name =>
    match numbers.lookup name with
    | some number => .ok (.alias number, [], numbers)
    | none => .error .undefinedAlias
  | .scalar properties text plain =>
    let node := .scalar properties text plain
    .ok (node, anchoredEntry numbers properties node, numbers.enter properties)
  | .sequence properties items => do
    let (items, inner, behind) ← numberItems (numbers.enter properties) items
    let node := .sequence properties items
    .ok (node, anchoredEntry numbers properties node ++ inner, behind)
  | .mapping properties entries => do
    let (entries, inner, behind) ←
      numberEntries (numbers.enter properties) entries
    let node := .mapping properties entries
    .ok (node, anchoredEntry numbers properties node ++ inner, behind)

def numberItems (numbers : AnchorNumbers) :
    List NamedNode →
      Except Fault (List NumberedNode × AnchoredNodes × AnchorNumbers)
  | [] => .ok ([], [], numbers)
  | item :: rest => do
    let (item, anchored, numbers) ← numberNode numbers item
    let (items, others, numbers) ← numberItems numbers rest
    .ok (item :: items, anchored ++ others, numbers)

def numberEntries (numbers : AnchorNumbers) :
    List (NamedNode × NamedNode) →
      Except Fault
        (List (NumberedNode × NumberedNode) × AnchoredNodes × AnchorNumbers)
  | [] => .ok ([], [], numbers)
  | (key, value) :: rest => do
    let (key, ofKey, numbers) ← numberNode numbers key
    let (value, ofValue, numbers) ← numberNode numbers value
    let (entries, others, numbers) ← numberEntries numbers rest
    .ok ((key, value) :: entries, ofKey ++ ofValue ++ others, numbers)
end

mutual
/-- The number of events that a node is announced by: one for a scalar or an
alias, and a start and an end for a sequence or a mapping. -/
def eventCount : NumberedNode → Nat
  | .alias _ => 1
  | .scalar _ _ _ => 1
  | .sequence _ items => itemEventCount items + 2
  | .mapping _ entries => entryEventCount entries + 2

def itemEventCount : List NumberedNode → Nat
  | [] => 0
  | item :: rest => eventCount item + itemEventCount rest

def entryEventCount : List (NumberedNode × NumberedNode) → Nat
  | [] => 0
  | (key, value) :: rest =>
    eventCount key + eventCount value + entryEventCount rest
end

/-! ## Values -/

/-- A computation that may follow a limited number of aliases. -/
abbrev Following (α : Type) : Type :=
  StateT Nat (Except Fault) α

/-- The node that a node stands for: itself unless it is an alias. -/
def follow (anchored : AnchoredNodes) : NumberedNode → Following NumberedNode
  | .alias number => do
    match ← get, anchored.reverse.lookup number with
    | left + 1, some node => do
      set left
      return node
    | 0, _ => throw .tooManyAliases
    | _, none => throw .undefinedAlias
  | node => return node

def keyText (anchored : AnchoredNodes) (node : NumberedNode) :
    Following String := do
  match ← follow anchored node with
  | .scalar _ text _ => return text
  | _ => throw .keyNotScalar

/-- Refuses a sequence or mapping with a tag of the document's own. -/
def checkTag (properties : Properties) : Except Fault Unit :=
  match properties.tag with
  | some tag =>
    if tag.toList.head? = some '!' then .error .unknownTag else .ok ()
  | none => .ok ()

/-- The value of a node, of which sequences and mappings may nest to the given
depth. -/
def nodeValue (anchored : AnchoredNodes) : Nat → NumberedNode → Following Value
  | depth, node => do
    match ← follow anchored node, depth with
    | .scalar properties text plain, _ => scalarValue properties.tag text plain
    | .sequence properties items, depth + 1 => do
      checkTag properties
      let values ← items.mapM (nodeValue anchored depth)
      return .array values
    | .mapping properties entries, depth + 1 => do
      checkTag properties
      let fields ← entries.mapM fun entry => do
        let key ← keyText anchored entry.1
        let value ← nodeValue anchored depth entry.2
        return (key, value)
      return .object
        (fields.foldl (fun done field => putEntry field.1 field.2 done) [])
    | .alias _, _ => throw .undefinedAlias
    | _, 0 => throw .tooDeep

def maxDepth : Nat := 128

/-- The number of aliases that may be followed for each event of the
document. -/
def aliasesPerEvent : Nat := 100

def documentValue (root : NamedNode) : Except Fault Value := do
  let (node, anchored, _) ← numberNode [] root
  let (value, _) ←
    (nodeValue anchored maxDepth node).run (aliasesPerEvent * eventCount node)
  .ok value

end Yaml
end ApiClientGen

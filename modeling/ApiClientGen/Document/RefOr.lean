import ApiClientGen.Document.Shape

/-!
# References in place of a node

A parameter and a request body may be given by a reference to another part of
the document.  A value is first read as a reference; only if it is none it is
read as the node itself.
-/

namespace ApiClientGen
namespace Document

open Json (Value)

/-- A reference to a node, or the node itself. -/
inductive RefOr (α : Type) where
  | reference (path : String)
  | inline (node : α)
deriving Repr

/-- The path of a reference: the text under `$ref` of an object. -/
def referencePath? : Value → Option String
  | .object fields =>
    match fields.lookup "$ref" with
    | some (.string path) => some path
    | _ => none
  | _ => none

/-- Reads a reference or a node.  If both fail, only the name of the choice is
reported. -/
def RefOr.ofJson {α : Type} (name : String) (inlineShape : Shape α) :
    Shape (RefOr α) :=
  fun value =>
    match referencePath? value with
    | some path => .ok (.reference path)
    | none =>
      match inlineShape value with
      | .ok node => .ok (.inline node)
      | .error _ => .error (.noVariant name)

def RefOr.toJson {α : Type} (writeInline : α → Value) : RefOr α → Value
  | .reference path => .object (field "$ref" (.string path))
  | .inline node => writeInline node

def RefOr.isReference {α : Type} : RefOr α → Bool
  | .reference _ => true
  | .inline _ => false

end Document
end ApiClientGen

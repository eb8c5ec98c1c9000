import ApiClientGen.Api.Basic
import ApiClientGen.Naming.Identifier

/-!
# Types named in a document

A type is named by a token, which stands under `type` or behind the last slash
of a reference.  A token with a dot names a type of a namespace, whatever else
the token may mean.
-/

namespace ApiClientGen
namespace Api

/-- The part of a token behind its last dot, and the part between the last two
dots. -/
def lastSegments (token : List Char) : List Char × List Char :=
  let backwards := token.reverse
  let name := backwards.takeWhile (· != '.')
  let space := ((backwards.dropWhile (· != '.')).drop 1).takeWhile (· != '.')
  (space.reverse, name.reverse)

/-- The type of a token with a dot: its last two segments, each with a
capital. -/
def qualifiedType? (token : String) : Option ApiType :=
  if token.toList.contains '.' then
    let (space, name) := lastSegments token.toList
    some (.qualified (String.ofList (Naming.capitalizeChars space))
      (String.ofList (Naming.capitalizeChars name)))
  else none

/-- The type of a token without a dot. -/
def primitiveType (token : String) : ApiType :=
  match token with
  | "integer" => .integer
  | "string" => .string
  | "boolean" => .boolean
  | "array" => .list
  | _ => .any

/-- The type that a `type` token names.  No token, and a token that is not
known, name no type. -/
def typeOfToken : Option String → ApiType
  | none => .any
  | some token => (qualifiedType? token).getD (primitiveType token)

/-- The type that the last segment of a reference names, given the names of the
models. -/
def typeOfReference (models : List String) (token : String) : ApiType :=
  match qualifiedType? token with
  | some type => type
  | none =>
    if models.contains token then .model token else typeOfToken (some token)

end Api
end ApiClientGen

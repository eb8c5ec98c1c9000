import ApiClientGen.Document.RefOr
import ApiClientGen.Document.SchemaObject
import ApiClientGen.Text.Blank

/-!
# Request bodies

A request body offers its content under several content types.  Generation takes
the one for JSON.
-/

namespace ApiClientGen
namespace Document

open Json (Value)

/-- The content of a body under one content type. -/
structure MediaType where
  schema : Option SchemaObject

namespace MediaType

def checks : List (String × Check) :=
  [("schema", check (optional SchemaObject.ofJson))]

def ofFields (fields : List (String × Value)) :
    Except ShapeError MediaType := do
  checkFields checks fields
  let schema ← optionalField fields "schema" SchemaObject.ofJson
  .ok { schema }

def ofItems (items : List Value) : Except ShapeError MediaType := do
  let schema ← itemAt items 0 "MediaType" 1 (optional SchemaObject.ofJson)
  noMoreThan items 1
  .ok { schema }

def ofJson : Shape MediaType :=
  record "MediaType" ofFields ofItems

def toJson (media : MediaType) : Value :=
  .object (fieldOf "schema" SchemaObject.toJson media.schema)

end MediaType

structure RequestBody where
  content : OrderedMap MediaType

/-- A content type without its parameters and the blanks around it. -/
def mediaTypeEssence (contentType : List Char) : List Char :=
  Text.trim (contentType.takeWhile (· != ';'))

/-- Whether a content type is one of JSON: its essence ends in `/json` or
`+json`, in either case of letters. -/
def isJsonContentType (contentType : String) : Bool :=
  let essence := Text.asciiLower (mediaTypeEssence contentType.toList)
  "/json".toList.isSuffixOf essence || "+json".toList.isSuffixOf essence

namespace RequestBody

def checks : List (String × Check) :=
  [("content", check (mapOf MediaType.ofJson))]

def ofFields (fields : List (String × Value)) :
    Except ShapeError RequestBody := do
  checkFields checks fields
  let content ←
    match fields.lookup "content" with
    | some value => mapOf MediaType.ofJson value
    | none => .ok OrderedMap.empty
  .ok { content }

def ofItems (items : List Value) : Except ShapeError RequestBody := do
  let content ← itemOr items 0 OrderedMap.empty (mapOf MediaType.ofJson)
  noMoreThan items 1
  .ok { content }

def ofJson : Shape RequestBody :=
  record "RequestBody" ofFields ofItems

def toJson (body : RequestBody) : Value :=
  .object (field "content" (mapValue MediaType.toJson body.content))

/-- The JSON content of a body: what stands under `application/json`, and else
the first content whose type is one of JSON. -/
def jsonContent? (body : RequestBody) : Option (String × MediaType) :=
  match body.content.get? "application/json" with
  | some media => some ("application/json", media)
  | none => body.content.toList.find? fun entry => isJsonContentType entry.1

end RequestBody

/-- Reads a request body or a reference to one. -/
def requestBodyOrRef : Shape (RefOr RequestBody) :=
  RefOr.ofJson "RequestBodyOrRef" RequestBody.ofJson

end Document
end ApiClientGen

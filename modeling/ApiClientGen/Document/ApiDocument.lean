import ApiClientGen.Document.Shape

/-!
# API descriptions

The whole document: general information, the paths and the component schemas.
What stands under a path and under the name of a schema stays a raw value here,
so that one malformed entry does not make the document unreadable.
-/

namespace ApiClientGen
namespace Document

open Json (Value)

/-- General information about the API. -/
structure Info where
  title : String
  version : String
  description : Option String
deriving Repr, DecidableEq

namespace Info

def checks : List (String × Check) :=
  [("title", check string), ("version", check string),
    ("description", check (optional string))]

/-- Reads the information from the fields of an object. -/
def ofFields (fields : List (String × Value)) : Except ShapeError Info := do
  checkFields checks fields
  let title ← required fields "title" string
  let version ← required fields "version" string
  let description ← optionalField fields "description" string
  .ok { title, version, description }

/-- Reads the information from the items of an array. -/
def ofItems (items : List Value) : Except ShapeError Info := do
  let title ← itemAt items 0 "Info" 3 string
  let version ← itemAt items 1 "Info" 3 string
  let description ← itemAt items 2 "Info" 3 (optional string)
  noMoreThan items 3
  .ok { title, version, description }

def ofJson : Shape Info :=
  record "Info" ofFields ofItems

def toJson (info : Info) : Value :=
  .object (field "title" (.string info.title) ++
    field "version" (.string info.version) ++
    fieldOf "description" .string info.description)

end Info

/-- What stands under a path: operations under their verbs, and other keys. -/
structure PathItem where
  entries : OrderedMap Value

namespace PathItem

def ofJson : Shape PathItem :=
  fun value => (mapOf raw value).map PathItem.mk

def toJson (item : PathItem) : Value :=
  mapValue id item.entries

end PathItem

/-- The components of a document, of which only the schemas are read. -/
structure Components where
  schemas : Option (OrderedMap Value)

namespace Components

def checks : List (String × Check) :=
  [("schemas", check (optional (mapOf raw)))]

def ofFields (fields : List (String × Value)) :
    Except ShapeError Components := do
  checkFields checks fields
  let schemas ← optionalField fields "schemas" (mapOf raw)
  .ok { schemas }

def ofItems (items : List Value) : Except ShapeError Components := do
  let schemas ← itemAt items 0 "Components" 1 (optional (mapOf raw))
  noMoreThan items 1
  .ok { schemas }

def ofJson : Shape Components :=
  record "Components" ofFields ofItems

def toJson (components : Components) : Value :=
  .object (fieldOf "schemas" (mapValue id) components.schemas)

end Components

structure ApiDocument where
  openapi : Option String
  swagger : Option String
  info : Info
  paths : OrderedMap PathItem
  components : Option Components

/-- Why a value is not an API description. -/
inductive DocumentError where
  | notAnObject
  | missingField (path : String)
  | invalidStructure (cause : ShapeError)
deriving Repr, Inhabited

def DocumentError.message : DocumentError → String
  | .notAnObject => "document root must be an object"
  | .missingField path => "missing required field: " ++ path
  | .invalidStructure cause => "invalid document structure: " ++ cause.message

namespace ApiDocument

def checks : List (String × Check) :=
  [("openapi", check (optional string)), ("swagger", check (optional string)),
    ("info", check Info.ofJson), ("paths", check (mapOf PathItem.ofJson)),
    ("components", check (optional Components.ofJson))]

def ofFields (fields : List (String × Value)) :
    Except ShapeError ApiDocument := do
  checkFields checks fields
  let openapi ← optionalField fields "openapi" string
  let swagger ← optionalField fields "swagger" string
  let info ← required fields "info" Info.ofJson
  let paths ← required fields "paths" (mapOf PathItem.ofJson)
  let components ← optionalField fields "components" Components.ofJson
  .ok { openapi, swagger, info, paths, components }

/-- Whether a value is an object with the given key, whatever stands under
it. -/
def hasKey (key : String) : Value → Bool
  | .object fields => (fields.lookup key).isSome
  | _ => false

/-- The first required key that is not there.  A key with the value null is
there. -/
def missingKey? (fields : List (String × Value)) : Option String :=
  match fields.lookup "info" with
  | none => some "info"
  | some info =>
    if !hasKey "title" info then some "info.title"
    else if !hasKey "version" info then some "info.version"
    else if (fields.lookup "paths").isNone then some "paths"
    else none

/-- Reads a document: an object in which the required keys are there and every
part has its shape. -/
def ofJson : Value → Except DocumentError ApiDocument
  | .object fields =>
    match missingKey? fields with
    | some path => .error (.missingField path)
    | none => (ofFields fields).mapError .invalidStructure
  | _ => .error .notAnObject

def toJson (document : ApiDocument) : Value :=
  .object (fieldOf "openapi" .string document.openapi ++
    fieldOf "swagger" .string document.swagger ++
    field "info" document.info.toJson ++
    field "paths" (mapValue PathItem.toJson document.paths) ++
    fieldOf "components" Components.toJson document.components)

/-- The component schemas, in document order; none if the section is not
there. -/
def schemas (document : ApiDocument) : List (String × Value) :=
  match document.components with
  | some { schemas := some schemas } => schemas.toList
  | _ => []

end ApiDocument
end Document
end ApiClientGen

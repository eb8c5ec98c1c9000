import ApiClientGen.Document.RefOr
import ApiClientGen.Document.SchemaObject

/-!
# Parameter objects
-/

namespace ApiClientGen
namespace Document

open Json (Value)

/-- A parameter of an operation or of all operations of a path.  Its location is
any text. -/
structure ParameterObject where
  name : String
  location : Option String
  schema : Option SchemaObject

namespace ParameterObject

def checks : List (String × Check) :=
  [("name", check string), ("in", check (optional string)),
    ("schema", check (optional SchemaObject.ofJson))]

def ofFields (fields : List (String × Value)) :
    Except ShapeError ParameterObject := do
  checkFields checks fields
  let name ← required fields "name" string
  let location ← optionalField fields "in" string
  let schema ← optionalField fields "schema" SchemaObject.ofJson
  .ok { name, location, schema }

def ofItems (items : List Value) : Except ShapeError ParameterObject := do
  let name ← itemAt items 0 "Parameter" 3 string
  let location ← itemAt items 1 "Parameter" 3 (optional string)
  let schema ← itemAt items 2 "Parameter" 3 (optional SchemaObject.ofJson)
  noMoreThan items 3
  .ok { name, location, schema }

def ofJson : Shape ParameterObject :=
  record "Parameter" ofFields ofItems

def toJson (parameter : ParameterObject) : Value :=
  .object (field "name" (.string parameter.name) ++
    fieldOf "in" .string parameter.location ++
    fieldOf "schema" SchemaObject.toJson parameter.schema)

end ParameterObject

/-- Reads a parameter or a reference to one. -/
def parameterOrRef : Shape (RefOr ParameterObject) :=
  RefOr.ofJson "ParameterOrRef" ParameterObject.ofJson

end Document
end ApiClientGen

import ApiClientGen.Document.ParameterObject
import ApiClientGen.Document.RequestBody

/-!
# Operation objects

The part of an operation that generation reads.  Responses are not read, since
every generated method returns an untyped value.
-/

namespace ApiClientGen
namespace Document

open Json (Value)

structure OperationObject where
  summary : Option String
  parameters : Option (List (RefOr ParameterObject))
  requestBody : Option (RefOr RequestBody)
  deprecated : Option Bool

namespace OperationObject

def checks : List (String × Check) :=
  [("summary", check (optional string)),
    ("parameters", check (optional (listOf parameterOrRef))),
    ("requestBody", check (optional requestBodyOrRef)),
    ("deprecated", check (optional boolean))]

def ofFields (fields : List (String × Value)) :
    Except ShapeError OperationObject := do
  checkFields checks fields
  let summary ← optionalField fields "summary" string
  let parameters ← optionalField fields "parameters" (listOf parameterOrRef)
  let requestBody ← optionalField fields "requestBody" requestBodyOrRef
  let deprecated ← optionalField fields "deprecated" boolean
  .ok { summary, parameters, requestBody, deprecated }

def ofItems (items : List Value) : Except ShapeError OperationObject := do
  let summary ← itemAt items 0 "Operation" 4 (optional string)
  let parameters ← itemOr items 1 none (optional (listOf parameterOrRef))
  let requestBody ← itemAt items 2 "Operation" 4 (optional requestBodyOrRef)
  let deprecated ← itemAt items 3 "Operation" 4 (optional boolean)
  noMoreThan items 4
  .ok { summary, parameters, requestBody, deprecated }

def ofJson : Shape OperationObject :=
  record "Operation" ofFields ofItems

def parametersValue (parameters : List (RefOr ParameterObject)) : Value :=
  .array (parameters.map (RefOr.toJson ParameterObject.toJson))

def toJson (operation : OperationObject) : Value :=
  .object (fieldOf "summary" .string operation.summary ++
    fieldOf "parameters" parametersValue operation.parameters ++
    fieldOf "requestBody" (RefOr.toJson RequestBody.toJson)
      operation.requestBody ++
    fieldOf "deprecated" .bool operation.deprecated)

end OperationObject
end Document
end ApiClientGen

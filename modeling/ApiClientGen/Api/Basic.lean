import ApiClientGen.Api.HttpMethod
import ApiClientGen.Api.Warning

/-!
# The model of an API

What a client is generated from: named models, operations with their parameters
and bodies, and the warnings about everything in the document that is not part
of it.
-/

namespace ApiClientGen
namespace Api

/-- The type of a field, a parameter or a body. -/
inductive ApiType where
  | integer
  | string
  | boolean
  | list
  /-- A name in a namespace. -/
  | qualified (space name : String)
  | model (name : String)
  | any
deriving Repr, DecidableEq

structure Field where
  name : String
  originalName : String
  type : ApiType
deriving Repr, DecidableEq

/-- An enumeration with its members in document order. -/
structure Enumeration where
  name : String
  description : Option String
  members : List String
deriving Repr, DecidableEq

/-- A record with its fields in document order. -/
structure RecordModel where
  name : String
  description : Option String
  fields : List Field
deriving Repr, DecidableEq

inductive Model where
  | enumeration (model : Enumeration)
  | record (model : RecordModel)
deriving Repr, DecidableEq

def Model.name : Model → String
  | .enumeration model => model.name
  | .record model => model.name

/-- Where a parameter is sent. -/
inductive Location where
  | path
  | query
  | header
  | cookie
  | other
deriving Repr, DecidableEq

def Location.ofName (name : String) : Location :=
  match name with
  | "path" => .path
  | "query" => .query
  | "header" => .header
  | "cookie" => .cookie
  | _ => .other

/-- A parameter with its identifier and its name in the document. -/
structure Parameter where
  name : String
  originalName : String
  location : Option Location
  type : ApiType
deriving Repr, DecidableEq

structure Body where
  type : ApiType
  contentType : String
deriving Repr, DecidableEq

/-- An operation: one verb of one path. -/
structure Operation where
  name : String
  method : HttpMethod
  path : String
  summary : Option String
  parameters : List Parameter
  body : Option Body
  returnType : ApiType
  deprecated : Bool
deriving Repr, DecidableEq

/-- General information and the names taken from it. -/
structure ApiInfo where
  title : String
  description : Option String
  clientClassName : String
  outputDirName : String
deriving Repr, DecidableEq

/-- An API that a client can be generated for. -/
structure ApiModel where
  info : ApiInfo
  models : List Model
  operations : List Operation
  warnings : List Warning
deriving Repr

def ApiModel.model? (api : ApiModel) (name : String) : Option Model :=
  api.models.find? (·.name == name)

def ApiModel.operation? (api : ApiModel) (name : String) : Option Operation :=
  api.operations.find? (·.name == name)

/-- The name of the body in the signature of a generated method. -/
def bodyParameterName : String := "requestBody"

/-- The name of the request inside a generated method. -/
def requestVariableName : String := "httpRequest"

end Api
end ApiClientGen

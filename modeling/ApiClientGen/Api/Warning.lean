import ApiClientGen.Document.Shape

/-!
# Warnings

Whatever part of a document is skipped or degraded is reported with its place
and its cause.  A warning never stops the generation.
-/

namespace ApiClientGen
namespace Api

open Document (ShapeError)

/-- Why a part of a document is skipped or degraded. -/
inductive Cause where
  | schemaNameNotIdentifier
  | schemaNotObject
  | schemaUnreadable (error : ShapeError)
  | memberNotIdentifier (member : String)
  | propertyNotSchema
  | schemaWithoutModel
  | unknownPathKey
  | operationUnreadable (error : ShapeError)
  | parametersUnreadable (error : ShapeError)
  | parameterReference (path : String)
  | bodyReference (path : String)
  | bodyWithoutJson
  | renamed (name newName : String)
  | placeholderWithoutParameter (name : String)
deriving Repr, Inhabited

def Cause.message : Cause → String
  | .schemaNameNotIdentifier => "schema name is not a valid identifier; skipped"
  | .schemaNotObject => "schema is not an object; skipped"
  | .schemaUnreadable error =>
    "unreadable schema (" ++ error.message ++ "); skipped"
  | .memberNotIdentifier member =>
    "enum member `" ++ member ++ "` is not a valid identifier"
  | .propertyNotSchema =>
    "property is not a schema object; typed as placeholder"
  | .schemaWithoutModel =>
    "schema has neither `enum` nor `properties`; no model generated"
  | .unknownPathKey => "unknown path item key; ignored"
  | .operationUnreadable error =>
    "unreadable operation (" ++ error.message ++ "); skipped"
  | .parametersUnreadable error =>
    "unreadable parameters (" ++ error.message ++ "); ignored"
  | .parameterReference path =>
    "parameter reference `" ++ path ++ "` is not resolved; skipped"
  | .bodyReference path =>
    "request body reference `" ++ path ++ "` is not resolved; skipped"
  | .bodyWithoutJson => "request body has no JSON media type; skipped"
  | .renamed name newName =>
    "name `" ++ name ++ "` already used; renamed to `" ++ newName ++ "`"
  | .placeholderWithoutParameter name =>
    "path placeholder `\x7b" ++ name ++ "\x7d` has no matching parameter"

/-- A place in the document, such as `components.schemas.Pet` or
`paths./pets.get`, and what happened there. -/
structure Warning where
  location : String
  cause : Cause
deriving Repr, Inhabited

/-- The word in front of a report; there is only one degree of severity. -/
def severityText : String := "warning"

def reportText (location message : String) : String :=
  severityText ++ ": " ++ location ++ ": " ++ message

def Warning.text (warning : Warning) : String :=
  reportText warning.location warning.cause.message

end Api
end ApiClientGen

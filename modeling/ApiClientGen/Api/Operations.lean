import ApiClientGen.Api.FreshName
import ApiClientGen.Api.TypeToken
import ApiClientGen.Document.ApiDocument
import ApiClientGen.Document.OperationObject
import ApiClientGen.Naming.OperationName
import ApiClientGen.Naming.ParameterName
import ApiClientGen.PathTemplate

/-!
# Operations from paths

Every verb of a path whose value can be read becomes an operation, in document
order.  The parameters of an operation override those of its path, and
identifiers are made distinct within an operation as names are within the API.
-/

namespace ApiClientGen
namespace Api

open Document (OperationObject ParameterObject PathItem RefOr RequestBody
  SchemaObject)
open Json (Value)

/-- A result together with the warnings that arose on the way, in order. -/
structure Reported (α : Type) where
  result : α
  warnings : List Warning

/-! ## Parameters and bodies -/

/-- The type of a schema that is a reference; any other schema gives an untyped
value. -/
def referencedType (models : List String) (schema : Option SchemaObject) :
    ApiType :=
  match schema.bind (·.referencedName) with
  | some token => typeOfReference models token
  | none => .any

def parameterOf (models : List String) (parameter : ParameterObject) :
    Parameter :=
  { name := Naming.parameterIdentifier parameter.name
    originalName := parameter.name
    location := parameter.location.map Location.ofName
    type := referencedType models parameter.schema }

/-- The parameters of a list that are given in place.  References are not
followed. -/
def inlineParameters (models : List String)
    (entries : List (RefOr ParameterObject)) : List Parameter :=
  entries.filterMap fun
    | .reference _ => none
    | .inline parameter => some (parameterOf models parameter)

def parameterReferenceWarnings (location : String)
    (entries : List (RefOr ParameterObject)) : List Warning :=
  entries.filterMap fun
    | .reference path => some ⟨location, .parameterReference path⟩
    | .inline _ => none

def sharedParameters (models : List String) (path : String) (item : PathItem) :
    Reported (List Parameter) :=
  let location := "paths." ++ path ++ ".parameters"
  match item.entries.get? "parameters" with
  | none => ⟨[], []⟩
  | some value =>
    match Document.listOf Document.parameterOrRef value with
    | .ok entries =>
      ⟨inlineParameters models entries,
        parameterReferenceWarnings location entries⟩
    | .error error => ⟨[], [⟨location, .parametersUnreadable error⟩]⟩

/-- Whether two parameters have the same name in the document and the same
location. -/
def Parameter.sameKey (p q : Parameter) : Bool :=
  p.originalName == q.originalName && p.location == q.location

/-- Puts a parameter in place of the first one with the same key, or at the
end. -/
def overrideParameter (parameter : Parameter) : List Parameter → List Parameter
  | [] => [parameter]
  | p :: rest =>
    if p.sameKey parameter then parameter :: rest
    else p :: overrideParameter parameter rest

/-- The shared parameters of a path, overridden by those of an operation. -/
def mergeParameters (shared own : List Parameter) : List Parameter :=
  own.foldl (fun merged parameter => overrideParameter parameter merged) shared

/-- Gives each parameter an identifier that is not taken, one after the
other. -/
def renameParameters (location : String) (taken : List String) :
    List Parameter → Reported (List Parameter)
  | [] => ⟨[], []⟩
  | parameter :: rest =>
    let name := freshName taken parameter.name
    let others := renameParameters location (taken ++ [name]) rest
    ⟨{ parameter with name := name } :: others.result,
      renameWarnings (location ++ ".parameters." ++ parameter.originalName)
        parameter.name name ++ others.warnings⟩

/-- The body of an operation: the JSON content of a body that is given in
place. -/
def bodyOf (models : List String) (location : String) :
    Option (RefOr RequestBody) → Reported (Option Body)
  | none => ⟨none, []⟩
  | some (.reference path) =>
    ⟨none, [⟨location ++ ".requestBody", .bodyReference path⟩]⟩
  | some (.inline body) =>
    match body.jsonContent? with
    | none => ⟨none, [⟨location ++ ".requestBody", .bodyWithoutJson⟩]⟩
    | some (contentType, media) =>
      ⟨some
        { type := referencedType models media.schema,
          contentType := contentType }, []⟩

/-! ## Operations -/

/-- The warnings about the placeholders of a path that no parameter is named
after. -/
def placeholderWarnings (location path : String) (parameters : List Parameter) :
    List Warning :=
  ((PathTemplate.placeholders path).filter fun name =>
    !parameters.any (·.originalName == name)).map fun name =>
      ⟨location, .placeholderWithoutParameter name⟩

/-- The names that parameters of an operation must not take. -/
def reservedNames (body : Option Body) : List String :=
  requestVariableName :: if body.isSome then [bodyParameterName] else []

/-- An operation that has its name. -/
def operationOf (models : List String) (location path : String)
    (shared : List Parameter) (name : String) (method : HttpMethod)
    (operation : OperationObject) : Reported Operation :=
  let entries := operation.parameters.getD []
  let merged := mergeParameters shared (inlineParameters models entries)
  let body := bodyOf models location operation.requestBody
  let parameters := renameParameters location (reservedNames body.result) merged
  ⟨{ name := name
     method := method
     path := path
     summary := operation.summary
     parameters := parameters.result
     body := body.result
     returnType := .any
     deprecated := operation.deprecated.getD false },
    parameterReferenceWarnings (location ++ ".parameters") entries ++
      body.warnings ++ parameters.warnings ++
      placeholderWarnings location path parameters.result⟩

/-- The keys of a path that are neither verbs nor worth a warning. -/
def quietKeys : List String :=
  ["parameters", "summary", "description", "servers", "$ref"]

/-- Whether a key of a path that is not a verb is passed over without a
warning. -/
def isQuietKey (key : String) : Bool :=
  quietKeys.contains key || "x-".toList.isPrefixOf key.toList

inductive PathEntry where
  | operation (method : HttpMethod) (operation : OperationObject)
  | skipped (warnings : List Warning)

def readPathEntry (path : String) (entry : String × Value) : PathEntry :=
  let location := "paths." ++ path ++ "." ++ entry.1
  match HttpMethod.ofKey? entry.1 with
  | none =>
    .skipped (if isQuietKey entry.1 then [] else [⟨location, .unknownPathKey⟩])
  | some method =>
    match OperationObject.ofJson entry.2 with
    | .ok operation => .operation method operation
    | .error error => .skipped [⟨location, .operationUnreadable error⟩]

/-- The operations of a path, given the names that earlier operations have. -/
def operationsOfEntries (models : List String) (path : String)
    (shared : List Parameter) (taken : List String) :
    List (String × Value) → Reported (List Operation)
  | [] => ⟨[], []⟩
  | entry :: rest =>
    match readPathEntry path entry with
    | .skipped warnings =>
      let others := operationsOfEntries models path shared taken rest
      ⟨others.result, warnings ++ others.warnings⟩
    | .operation method operation =>
      let location := "paths." ++ path ++ "." ++ entry.1
      let base := Naming.operationName path entry.1
      let name := freshName taken base
      let lowered :=
        operationOf models location path shared name method operation
      let others :=
        operationsOfEntries models path shared (taken ++ [name]) rest
      ⟨lowered.result :: others.result,
        renameWarnings location base name ++ lowered.warnings ++
          others.warnings⟩

/-- The operations of the paths of a document, given the names that earlier
operations have. -/
def operationsOfPaths (models : List String) (taken : List String) :
    List (String × PathItem) → Reported (List Operation)
  | [] => ⟨[], []⟩
  | (path, item) :: rest =>
    let shared := sharedParameters models path item
    let here :=
      operationsOfEntries models path shared.result taken item.entries.toList
    let others :=
      operationsOfPaths models (taken ++ here.result.map (·.name)) rest
    ⟨here.result ++ others.result,
      shared.warnings ++ here.warnings ++ others.warnings⟩

end Api
end ApiClientGen

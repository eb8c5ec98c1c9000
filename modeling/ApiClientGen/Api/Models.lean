import ApiClientGen.Api.TypeToken
import ApiClientGen.Document.SchemaObject
import ApiClientGen.Json.Printer

/-!
# Models from component schemas

A component schema becomes an enumeration if it has members, and a record if it
has properties.  Every other entry is left out with a warning.
-/

namespace ApiClientGen
namespace Api

open Document (SchemaObject)
open Json (Value)

def schemaLocation (name : String) : String :=
  "components.schemas." ++ name

/-- Reads one component schema.  Its name becomes the name of a type and of a
file, so it has to be an identifier. -/
def readSchema (entry : String × Value) :
    Except Warning (String × SchemaObject) :=
  let (name, value) := entry
  if !Naming.isIdentifier name then
    .error ⟨schemaLocation name, .schemaNameNotIdentifier⟩
  else
    match value with
    | .object _ =>
      match SchemaObject.ofJson value with
      | .ok schema => .ok (name, schema)
      | .error error => .error ⟨schemaLocation name, .schemaUnreadable error⟩
    | _ => .error ⟨schemaLocation name, .schemaNotObject⟩

/-- The component schemas that can be read, in document order. -/
def readableSchemas (entries : List (String × Value)) :
    List (String × SchemaObject) :=
  entries.filterMap fun entry => (readSchema entry).toOption

def errorOf? {ε α : Type} : Except ε α → Option ε
  | .ok _ => none
  | .error error => some error

def unreadableSchemaWarnings (entries : List (String × Value)) : List Warning :=
  entries.filterMap fun entry => errorOf? (readSchema entry)

/-- Whether a schema becomes a model. -/
def hasModel (schema : SchemaObject) : Bool :=
  schema.enumeration.isSome || schema.properties.isPresent

def modelNames (schemas : List (String × SchemaObject)) : List String :=
  (schemas.filter (hasModel ·.2)).map Prod.fst

/-- The name of an enumeration member: a text as it is, and any other value as
JSON. -/
def memberName : Value → String
  | .string text => text
  | value => value.text

/-- The type of a property, if the property is a schema. -/
def propertyType? (models : List String) (value : Value) : Option ApiType :=
  match SchemaObject.ofJson value with
  | .ok schema =>
    match schema.referencedName with
    | some token => some (typeOfReference models token)
    | none => some (typeOfToken schema.typeToken)
  | .error _ => none

def fieldOfProperty (models : List String) (entry : String × Value) : Field :=
  { name := Naming.capitalizeFirst entry.1
    originalName := entry.1
    type := (propertyType? models entry.2).getD .any }

/-- The warning about a property that is not a schema. -/
def propertyWarning? (models : List String) (location : String)
    (entry : String × Value) : Option Warning :=
  if (propertyType? models entry.2).isNone then
    some ⟨location ++ ".properties." ++ entry.1, .propertyNotSchema⟩
  else none

def modelOf? (models : List String) (entry : String × SchemaObject) :
    Option Model :=
  let (name, schema) := entry
  match schema.enumeration with
  | some values =>
    some (.enumeration
      { name := name, description := schema.description,
        members := values.map memberName })
  | none =>
    if schema.properties.isPresent then
      some (.record
        { name := name
          description := schema.description
          fields := schema.properties.toList.map (fieldOfProperty models) })
    else none

def modelWarnings (models : List String) (entry : String × SchemaObject) :
    List Warning :=
  let (name, schema) := entry
  match schema.enumeration with
  | some values =>
    ((values.map memberName).filter (!Naming.isIdentifier ·)).map fun member =>
      ⟨schemaLocation name, .memberNotIdentifier member⟩
  | none =>
    if schema.properties.isPresent then
      schema.properties.toList.filterMap
        (propertyWarning? models (schemaLocation name))
    else [⟨schemaLocation name, .schemaWithoutModel⟩]

end Api
end ApiClientGen

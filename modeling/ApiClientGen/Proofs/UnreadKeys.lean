import ApiClientGen.Proofs.ReadParts

/-!
# Keys that are not read

A document is cut down to the parts that are read: the component schemas with
their properties, the operations with their parameters and bodies, and the
parameters of the paths.  What is left describes the same API with the same
warnings.  So two documents that are cut down to the same one cannot be told
apart, whatever stands under their other keys, and whether or not their nodes
can be read.
-/

namespace ApiClientGen
namespace Api

open Document (ApiDocument Components OperationObject ParameterObject PathItem
  SchemaObject keepInItems keepParts)
open Json (Value)

/-! ## What is read of a document -/

/-- What is read of the value under a key of a path: an operation under a verb,
and a list of parameters under the key for them.  Values under other keys are
kept. -/
def keepPathEntry (key : String) : Value → Value :=
  if (HttpMethod.named? key).isSome then keepParts OperationObject.readParts
  else if key = "parameters" then
      keepInItems (keepParts ParameterObject.readParts)
  else id

theorem keepPathEntry_of_named? {key : String} {method : HttpMethod}
    (hmethod : HttpMethod.named? key = some method) :
    keepPathEntry key = keepParts OperationObject.readParts := by
  simp [keepPathEntry, hmethod]

theorem keepPathEntry_parameters :
    keepPathEntry "parameters" =
      keepInItems (keepParts ParameterObject.readParts) := by
  have hverb : HttpMethod.named? "parameters" = none := by decide +kernel
  simp [keepPathEntry, hverb]

def readPathItem (item : PathItem) : PathItem :=
  ⟨item.entries.mapWithKey keepPathEntry⟩

def readComponents (components : Components) : Components :=
  ⟨components.schemas.map
    (OrderedMap.mapValues (keepParts SchemaObject.componentParts))⟩

/-- What is read of a document. -/
def readDocument (document : ApiDocument) : ApiDocument :=
  { document with
    paths := document.paths.mapValues readPathItem
    components := document.components.map readComponents }

theorem schemas_readDocument (document : ApiDocument) :
    (readDocument document).schemas =
      document.schemas.map fun entry =>
        (entry.1, keepParts SchemaObject.componentParts entry.2) := by
  obtain ⟨openapi, swagger, info, paths, components⟩ := document
  rcases components with _ | ⟨_ | schemas⟩
  · rfl
  · rfl
  · rfl

theorem paths_readDocument (document : ApiDocument) :
    (readDocument document).paths.toList =
      document.paths.toList.map fun entry => (entry.1, readPathItem entry.2) :=
  rfl

/-! ## Models -/

theorem propertyType?_keepParts (models : List String) (value : Value) :
    propertyType? models (keepParts SchemaObject.readParts value) =
      propertyType? models value := by
  rw [propertyType?, propertyType?, SchemaObject.overlooks_ofJson.shape_eq]

theorem modelOf?_mapProperties (models : List String) (name : String)
    (schema : SchemaObject) :
    modelOf? models
      (name, schema.mapProperties (keepParts SchemaObject.readParts)) =
      modelOf? models (name, schema) := by
  have hfields : ∀ properties : List (String × Value),
      (properties.map fun entry =>
        (entry.1, keepParts SchemaObject.readParts entry.2)).map
        (fieldOfProperty models) = properties.map (fieldOfProperty models) := by
    intro properties
    rw [List.map_map]
    apply List.map_congr_left
    intro property _
    simp only [Function.comp_apply, fieldOfProperty, propertyType?_keepParts]
  simp only [modelOf?, SchemaObject.mapProperties,
    Document.Properties.isPresent_map, Document.Properties.toList_map, hfields]

theorem modelWarnings_mapProperties (models : List String) (name : String)
    (schema : SchemaObject) :
    modelWarnings models
      (name, schema.mapProperties (keepParts SchemaObject.readParts)) =
      modelWarnings models (name, schema) := by
  have hproperties : ∀ (location : String) (properties : List (String × Value)),
      (properties.map fun entry =>
        (entry.1, keepParts SchemaObject.readParts entry.2)).filterMap
        (propertyWarning? models location) =
        properties.filterMap (propertyWarning? models location) := by
    intro location properties
    rw [List.filterMap_map]
    apply List.filterMap_congr
    intro property _
    simp only [Function.comp_apply, propertyWarning?, propertyType?_keepParts]
  simp only [modelWarnings, SchemaObject.mapProperties,
    Document.Properties.isPresent_map, Document.Properties.toList_map,
    hproperties]

/-- The schema of an entry with cut properties, under its name. -/
def cutSchema (entry : String × SchemaObject) : String × SchemaObject :=
  (entry.1, entry.2.mapProperties (keepParts SchemaObject.readParts))

theorem readSchema_keepParts (entry : String × Value) :
    readSchema (entry.1, keepParts SchemaObject.componentParts entry.2) =
      (readSchema entry).map cutSchema := by
  obtain ⟨name, value⟩ := entry
  by_cases hname : Naming.isIdentifier name = true
  · cases value with
    | object fields =>
        have hread : SchemaObject.ofJson
            (keepParts SchemaObject.componentParts (.object fields)) =
            (SchemaObject.ofJson (.object fields)).map
              (SchemaObject.mapProperties (keepParts SchemaObject.readParts)) :=
          SchemaObject.ofFields_keepFields fields
        rw [keepParts] at hread
        simp only [readSchema, hname, keepParts, hread]
        cases SchemaObject.ofJson (.object fields) <;> rfl
    | _ =>
        simp only [readSchema, hname, keepParts]
        rfl
  · simp only [readSchema, hname]
    rfl

theorem readableSchemas_keepParts (entries : List (String × Value)) :
    readableSchemas (entries.map fun entry =>
        (entry.1, keepParts SchemaObject.componentParts entry.2)) =
      (readableSchemas entries).map cutSchema := by
  have hentry : ∀ entry : String × Value,
      (readSchema
        (entry.1, keepParts SchemaObject.componentParts entry.2)).toOption =
        (readSchema entry).toOption.map cutSchema := by
    intro entry
    rw [readSchema_keepParts]
    cases readSchema entry <;> rfl
  rw [readableSchemas, readableSchemas, List.filterMap_map, List.map_filterMap]
  apply List.filterMap_congr
  intro entry _
  exact hentry entry

theorem unreadableSchemaWarnings_keepParts (entries : List (String × Value)) :
    unreadableSchemaWarnings (entries.map fun entry =>
        (entry.1, keepParts SchemaObject.componentParts entry.2)) =
      unreadableSchemaWarnings entries := by
  rw [unreadableSchemaWarnings, unreadableSchemaWarnings, List.filterMap_map]
  apply List.filterMap_congr
  intro entry _
  rw [Function.comp_apply, readSchema_keepParts]
  cases readSchema entry <;> rfl

theorem modelNames_map_cutSchema (schemas : List (String × SchemaObject)) :
    modelNames (schemas.map cutSchema) = modelNames schemas := by
  have hmodel : ∀ entry : String × SchemaObject,
      hasModel (cutSchema entry).2 = hasModel entry.2 := by
    intro entry
    simp only [hasModel, cutSchema, SchemaObject.mapProperties,
      Document.Properties.isPresent_map]
  rw [modelNames, modelNames, List.filter_map, List.map_map]
  congr 1
  apply List.filter_congr
  intro entry _
  exact hmodel entry

/-! ## Operations -/

theorem readPathEntry_keepPathEntry (path : String) (entry : String × Value) :
    readPathEntry path (entry.1, keepPathEntry entry.1 entry.2) =
      readPathEntry path entry := by
  cases hmethod : HttpMethod.named? entry.1 with
  | none => simp only [readPathEntry, HttpMethod.ofKey?_eq_named?, hmethod]
  | some method =>
      simp only [readPathEntry, HttpMethod.ofKey?_eq_named?, hmethod,
        keepPathEntry_of_named? hmethod,
        OperationObject.overlooks_ofJson.shape_eq]

theorem sharedParameters_readPathItem (models : List String) (path : String)
    (item : PathItem) :
    sharedParameters models path (readPathItem item) =
      sharedParameters models path item := by
  have hget : (readPathItem item).entries.get? "parameters" =
      (item.entries.get? "parameters").map
        (keepInItems (keepParts ParameterObject.readParts)) := by
    rw [readPathItem, OrderedMap.get?_mapWithKey, keepPathEntry_parameters]
  unfold sharedParameters
  rw [hget]
  cases item.entries.get? "parameters" with
  | none => rfl
  | some value =>
      simp only [Option.map_some,
        Document.overlooks_parameterOrRef.listOf.shape_eq]

theorem operationsOfEntries_keepPathEntry (models taken : List String)
    (path : String) (shared : List Parameter)
    (entries : List (String × Value)) :
    operationsOfEntries models path shared taken
      (entries.map fun entry => (entry.1, keepPathEntry entry.1 entry.2)) =
      operationsOfEntries models path shared taken entries := by
  induction entries generalizing taken with
  | nil => rfl
  | cons entry rest ih =>
      simp only [List.map_cons, operationsOfEntries,
        readPathEntry_keepPathEntry, ih]

theorem operationsOfPaths_readPathItem (models taken : List String)
    (paths : List (String × PathItem)) :
    operationsOfPaths models taken
      (paths.map fun entry => (entry.1, readPathItem entry.2)) =
      operationsOfPaths models taken paths := by
  induction paths generalizing taken with
  | nil => rfl
  | cons entry rest ih =>
      obtain ⟨path, item⟩ := entry
      have hentries : (readPathItem item).entries.toList =
          item.entries.toList.map fun entry =>
            (entry.1, keepPathEntry entry.1 entry.2) := rfl
      simp only [List.map_cons, operationsOfPaths,
        sharedParameters_readPathItem, hentries,
        operationsOfEntries_keepPathEntry, ih]

/-! ## The whole document -/

/-- What is read of a document describes the same API, and gives the same
warnings in the same order. -/
theorem ofDocument_readDocument (document : ApiDocument) :
    ofDocument (readDocument document) = ofDocument document := by
  have hmodels :
      ∀ (models : List String) (schemas : List (String × SchemaObject)),
        (schemas.map cutSchema).filterMap (modelOf? models) =
          schemas.filterMap (modelOf? models) := by
    intro models schemas
    rw [List.filterMap_map]
    apply List.filterMap_congr
    intro entry _
    exact modelOf?_mapProperties models entry.1 entry.2
  have hwarnings :
      ∀ (models : List String) (schemas : List (String × SchemaObject)),
        (schemas.map cutSchema).flatMap (modelWarnings models) =
          schemas.flatMap (modelWarnings models) := by
    intro models schemas
    rw [List.flatMap_map]
    congr 1
    funext entry
    exact modelWarnings_mapProperties models entry.1 entry.2
  have hinfo : (readDocument document).info = document.info := rfl
  simp only [ofDocument, schemas_readDocument, paths_readDocument, hinfo,
    readableSchemas_keepParts, modelNames_map_cutSchema, hmodels,
    unreadableSchemaWarnings_keepParts, hwarnings,
    operationsOfPaths_readPathItem]

/-- What is read of each kind of node are the entries under its listed keys:
entries under other keys leave no trace, wherever they stand.  And two documents
of which the same is read describe the same API with the same warnings, whatever
else they hold. -/
theorem unread_keys_have_no_effect :
    (OperationObject.readParts.map Prod.fst =
      ["summary", "parameters", "requestBody", "deprecated"] ∧
      SchemaObject.componentParts.map Prod.fst =
        ["$ref", "type", "description", "enum", "properties"] ∧
      SchemaObject.readParts.map Prod.fst =
        ["$ref", "type", "description", "enum", "properties"] ∧
      ParameterObject.readParts.map Prod.fst =
        ["name", "in", "schema", "$ref"] ∧
      Document.RequestBody.readParts.map Prod.fst = ["content", "$ref"]) ∧
      (∀ (parts : Document.Parts) (entry :
        String × Value) (front back : List (String × Value)),
        entry.1 ∉ parts.map Prod.fst →
          keepParts parts (.object (front ++ entry :: back)) =
            keepParts parts (.object (front ++ back))) ∧
      ∀ document other : ApiDocument,
        readDocument document = readDocument other →
          ofDocument document = ofDocument other := by
  refine ⟨⟨rfl, rfl, rfl, rfl, rfl⟩, ?_, ?_⟩
  · intro parts entry front back hkey
    apply Document.keepParts_unread
    rw [List.lookup_eq_none_iff]
    intro part hpart
    rw [bne_iff_ne]
    intro hsame
    exact hkey (hsame ▸ List.mem_map_of_mem hpart)
  · intro document other hsame
    rw [← ofDocument_readDocument document, hsame,
      ofDocument_readDocument other]

/-- A path with the same notes in its parameter, in an operation with a
parameter and a body, and in an operation that cannot be read. -/
def annotatedItem (notes : List (String × Value)) : PathItem where
  entries := ⟨ [("parameters",
    .array [.object (notes ++ [("name", .string "page")])]),
    ("post", .object (notes ++
      [("parameters", .array [.object (("name", .string "dry") :: notes)]),
        ("requestBody", .object (notes ++
          [("content", .object [("application/json", .object [("schema", .object
            [("$ref", .string "#/components/schemas/Pet")])])])]))])),
    ("get", .object (("summary", .bool true) :: notes))],
    (by decide : ["parameters", "post", "get"].Nodup)⟩

/-- A document with the same notes in the nodes of a path, in a schema with a
property, and in a schema that cannot be read. -/
def annotatedDocument (notes : List (String × Value)) : ApiDocument where
  openapi := none
  swagger := none
  info := ⟨"Notes", "1", none⟩
  components := some ⟨some (OrderedMap.ofList
    [("Pet", .object (notes ++ [("properties", .object
        [("age", .object (("type", .string "integer") :: notes))])])),
      ("Tag", .object (("enum", .string "red") :: notes))])⟩
  paths := OrderedMap.ofList [("/pets", annotatedItem notes)]

theorem unread_keys_have_no_effect_annotated :
    let notes := [("operationId", .string "pets"), ("required", .bool true),
      ("x-note", .null)]
    keepParts OperationObject.readParts (.object notes) =
      keepParts OperationObject.readParts (.object notes.tail) ∧
      readDocument (annotatedDocument notes) =
        readDocument (annotatedDocument []) ∧
      ofDocument (annotatedDocument notes) = ofDocument (annotatedDocument []) ∧
      (ofDocument (annotatedDocument [])).operations.map (·.name) =
        ["PetsPost"] ∧
      (ofDocument (annotatedDocument [])).warnings.length = 2 := by
  intro notes
  have hpost : HttpMethod.named? "post" = some .post := by decide +kernel
  have hget : HttpMethod.named? "get" = some .get := by decide +kernel
  have hitem :
      readPathItem (annotatedItem notes) = readPathItem (annotatedItem []) := by
    simp only [readPathItem, annotatedItem, OrderedMap.mapWithKey,
      List.map_cons, List.map_nil, keepPathEntry_parameters,
      keepPathEntry_of_named? hpost, keepPathEntry_of_named? hget]
    rfl
  have hpaths : (annotatedDocument notes).paths.mapValues readPathItem =
      (annotatedDocument []).paths.mapValues readPathItem :=
    OrderedMap.ext (congrArg (fun item => [("/pets", item)]) hitem)
  have hsame : readDocument (annotatedDocument notes) =
      readDocument (annotatedDocument []) := by
    rw [readDocument, readDocument, hpaths]
    rfl
  refine ⟨unread_keys_have_no_effect.2.1 _ _ [] _ (by decide), hsame,
    unread_keys_have_no_effect.2.2 _ _ hsame, ?_, ?_⟩
  · decide +kernel
  · decide +kernel

end Api
end ApiClientGen

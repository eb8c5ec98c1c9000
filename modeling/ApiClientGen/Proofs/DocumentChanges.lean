import ApiClientGen.Proofs.SchemaAccounting

/-!
# Changes of a document

Two changes of a document that should leave the API as it is: its component
schemas in another order, and further paths behind those that are there.  The
first one changes the list that every reference is resolved with, and the second
one the names that stand beside each other.  But the list is only asked whether
it holds a name, so no reference can tell its order.  And names are given from
left to right, so no name depends on what comes behind it.
-/

namespace ApiClientGen
namespace Api

open Document (ApiDocument PathItem)
open Json (Value)

/-! ## Lists with the same names -/

section SameNames

variable {models others : List String}
    (hnames : ∀ name, name ∈ models ↔ name ∈ others)

include hnames

theorem typeOfReference_congr :
    typeOfReference models = typeOfReference others := by
  funext token
  have hcontains : models.contains token = others.contains token := by
    rw [Bool.eq_iff_iff, List.contains_iff_mem, List.contains_iff_mem]
    exact hnames token
  simp only [typeOfReference, hcontains]

theorem referencedType_congr :
    referencedType models = referencedType others := by
  funext schema
  simp only [referencedType, typeOfReference_congr hnames]

theorem parameterOf_congr : parameterOf models = parameterOf others := by
  funext object
  simp only [parameterOf, referencedType_congr hnames]

theorem sharedParameters_congr :
    sharedParameters models = sharedParameters others := by
  funext path item
  simp only [sharedParameters, inlineParameters, parameterOf_congr hnames]

theorem bodyOf_congr : bodyOf models = bodyOf others := by
  funext location body
  rcases body with _ | path | body
  · rfl
  · rfl
  · simp only [bodyOf, referencedType_congr hnames]

theorem operationOf_congr : operationOf models = operationOf others := by
  funext location path shared name method object
  simp only [operationOf, inlineParameters, parameterOf_congr hnames,
    bodyOf_congr hnames]

theorem operationsOfEntries_congr :
    operationsOfEntries models = operationsOfEntries others := by
  funext path shared taken entries
  induction entries generalizing taken with
  | nil => rfl
  | cons entry rest ih =>
      simp only [operationsOfEntries, operationOf_congr hnames, ih]

theorem operationsOfPaths_congr :
    operationsOfPaths models = operationsOfPaths others := by
  funext taken paths
  induction paths generalizing taken with
  | nil => rfl
  | cons entry rest ih =>
      simp only [operationsOfPaths, sharedParameters_congr hnames,
        operationsOfEntries_congr hnames, ih]

theorem propertyType?_congr : propertyType? models = propertyType? others := by
  funext value
  simp only [propertyType?, typeOfReference_congr hnames]

theorem fieldOfProperty_congr :
    fieldOfProperty models = fieldOfProperty others := by
  funext property
  simp only [fieldOfProperty, propertyType?_congr hnames]

theorem propertyWarning?_congr :
    propertyWarning? models = propertyWarning? others := by
  funext location property
  simp only [propertyWarning?, propertyType?_congr hnames]

theorem entryModel?_congr : entryModel? models = entryModel? others := by
  have hmodel : modelOf? models = modelOf? others := by
    funext entry
    simp only [modelOf?, fieldOfProperty_congr hnames]
  funext entry
  rw [entryModel?, entryModel?, hmodel]

theorem entryWarnings_congr : entryWarnings models = entryWarnings others := by
  have hwarnings : modelWarnings models = modelWarnings others := by
    funext entry
    simp only [modelWarnings, propertyWarning?_congr hnames]
  funext entry
  simp only [entryWarnings, hwarnings]

end SameNames

/-! ## Component schemas in another order -/

/-- The other document has the same component schemas in some order, and all
else that is read is the same. -/
structure Reordered (document other : ApiDocument) : Prop where
  info : other.info = document.info
  paths : other.paths = document.paths
  schemas : other.schemas.Perm document.schemas

theorem name_of_entryModel? {models : List String} {entry : String × Value}
    {model : Model} (hmodel : entryModel? models entry = some model) :
    model.name = entry.1 := by
  cases outcome models entry with
  | skipped cause _ _ hnone => rw [hnone] at hmodel; cases hmodel
  | modelled other _ hother hdescribes =>
      obtain rfl : other = model := Option.some.inj (hother.symm.trans hmodel)
      cases hdescribes <;> rfl

/-- Among entries with distinct names, the model under the name of an entry is
the one that is made of it. -/
theorem find?_filterMap_entryModel? (models : List String)
    {entries : List (String × Value)} (hkeys : (entryKeys entries).Nodup)
    {entry : String × Value} (hmem : entry ∈ entries) :
    (entries.filterMap (entryModel? models)).find? (·.name == entry.1) =
      entryModel? models entry := by
  obtain ⟨front, back, rfl⟩ := List.append_of_mem hmem
  have hother :
      ∀ part : List (String × Value), (∀ other ∈ part, other.1 ≠ entry.1) →
        (part.filterMap (entryModel? models)).find? (·.name == entry.1) =
          none := by
    intro part hpart
    rw [List.find?_eq_none]
    intro model hmodel
    obtain ⟨other, hother, hmade⟩ := List.mem_filterMap.mp hmodel
    simpa [name_of_entryModel? hmade] using hpart other hother
  have hdistinct : entry.1 ∉ entryKeys front ∧ entry.1 ∉ entryKeys back := by
    rw [entryKeys, List.map_append, List.map_cons, List.nodup_middle,
      List.nodup_cons, List.mem_append, not_or] at hkeys
    exact hkeys.1
  have hfront := hother front fun other hmem heq =>
    hdistinct.1 (List.mem_map.mpr ⟨other, hmem, heq⟩)
  have hback := hother back fun other hmem heq =>
    hdistinct.2 (List.mem_map.mpr ⟨other, hmem, heq⟩)
  rw [List.filterMap_append, List.find?_append, hfront, Option.none_or]
  cases hmade : entryModel? models entry with
  | none => rw [List.filterMap_cons_none hmade, hback]
  | some model =>
      rw [List.filterMap_cons_some hmade, List.find?_cons_of_pos]
      simpa using name_of_entryModel? hmade

theorem Reordered.mem_modelNames_iff {document other : ApiDocument}
    (hsame : Reordered document other) (name : String) :
    name ∈ modelNames (readableSchemas other.schemas) ↔
      name ∈ modelNames (readableSchemas document.schemas) := by
  have hreadable :=
    hsame.schemas.filterMap fun entry => (readSchema entry).toOption
  exact ((hreadable.filter _).map Prod.fst).mem_iff

theorem Reordered.models {document other : ApiDocument}
    (hsame : Reordered document other) :
    (ofDocument other).models =
      other.schemas.filterMap fun entry =>
        (ofDocument document).model? entry.1 := by
  rw [models_ofDocument, entryModel?_congr hsame.mem_modelNames_iff]
  apply List.filterMap_congr
  intro entry hentry
  rw [ApiModel.model?, models_ofDocument]
  symm
  apply find?_filterMap_entryModel? _ (nodup_names_schemas document)
  exact hsame.schemas.mem_iff.mp hentry

theorem perm_warnings_ofDocument (document : ApiDocument) :
    (ofDocument document).warnings.Perm (document.schemas.flatMap
      (entryWarnings (modelNames (readableSchemas document.schemas))) ++
      (operationsOfPaths (modelNames (readableSchemas document.schemas)) []
        document.paths.toList).warnings) :=
  (perm_schemaWarnings _ document.schemas).append_right _

/-- A document with its component schemas in another order describes the same
operations.  Its models stand in the new order and each is the same as before,
and so are the warnings, up to their order. -/
theorem order_of_schemas_only_orders_models {document other : ApiDocument}
    (hsame : Reordered document other) :
    (ofDocument other).info = (ofDocument document).info ∧
      (ofDocument other).operations = (ofDocument document).operations ∧
      (ofDocument other).models =
        other.schemas.filterMap
          (fun entry => (ofDocument document).model? entry.1) ∧
      (ofDocument other).models.Perm (ofDocument document).models ∧
      (ofDocument other).warnings.Perm (ofDocument document).warnings := by
  have hnames := hsame.mem_modelNames_iff
  have hpaths : operationsOfPaths (modelNames (readableSchemas other.schemas))
      [] other.paths.toList =
      operationsOfPaths (modelNames (readableSchemas document.schemas)) []
        document.paths.toList := by
    rw [operationsOfPaths_congr hnames, hsame.paths]
  refine ⟨?_, ?_, hsame.models, ?_, ?_⟩
  · exact congrArg infoOf hsame.info
  · exact congrArg Reported.result hpaths
  · rw [models_ofDocument, models_ofDocument, entryModel?_congr hnames]
    exact hsame.schemas.filterMap _
  · have hother := perm_warnings_ofDocument other
    rw [hpaths, entryWarnings_congr hnames] at hother
    have hschemas := hsame.schemas.flatMap_right
      (entryWarnings (modelNames (readableSchemas document.schemas)))
    exact hother.trans
      ((hschemas.append_right _).trans (perm_warnings_ofDocument document).symm)

/-- A document with the given component schemas and one operation, whose
parameter and body refer to them. -/
def petsDocument (schemas : OrderedMap Value) : ApiDocument where
  openapi := none
  swagger := none
  info := ⟨"Pets", "1", none⟩
  components := some ⟨some schemas⟩
  paths := OrderedMap.ofList [("/pets/{owner}",
    ⟨OrderedMap.ofList [("post", .object [("parameters",
      .array [.object [("name", .string "owner"), ("in", .string "path"),
        ("schema", .object [("$ref", .string "#/components/schemas/Owner")])]]),
      ("requestBody", .object [("content", .object [("application/json", .object
        [("schema",
          .object [("$ref", .string "#/components/schemas/Pet")])])])])])]⟩)]

/-- Two schemas that refer to each other and one that cannot be read. -/
def petSchemas : List (String × Value) :=
  [("Pet", .object [("properties", .object
    [("owner", .object [("$ref", .string "#/components/schemas/Owner")])])]),
    ("Broken", .bool true),
    ("Owner", .object [("properties", .object
      [("favourite",
        .object [("$ref", .string "#/components/schemas/Pet")])])])]

theorem order_of_schemas_only_orders_models_pets :
    let document := petsDocument ⟨petSchemas, by decide⟩
    let other := petsDocument ⟨petSchemas.reverse, by decide⟩
    Reordered document other ∧
      (ofDocument other).operations = (ofDocument document).operations ∧
      (ofDocument other).models.map Model.name = ["Owner", "Pet"] ∧
      (ofDocument other).models.Perm (ofDocument document).models ∧
      (ofDocument other).warnings.Perm (ofDocument document).warnings := by
  intro document other
  have hsame : Reordered document other := ⟨rfl, rfl, petSchemas.reverse_perm⟩
  obtain ⟨-, hoperations, -, hmodels, hwarnings⟩ :=
    order_of_schemas_only_orders_models hsame
  exact ⟨hsame, hoperations, by decide +kernel, hmodels, hwarnings⟩

/-! ## Further paths -/

/-- The other document has the same paths and further ones behind them, and all
else that is read is the same. -/
structure Extended (document other : ApiDocument) : Prop where
  info : other.info = document.info
  schemas : other.schemas = document.schemas
  paths : document.paths.toList <+: other.paths.toList

/-- Paths are lowered from left to right, and what comes later is told no more
than the names so far. -/
theorem operationsOfPaths_append (models taken : List String)
    (front back : List (String × PathItem)) :
    let first := operationsOfPaths models taken front
    let others :=
      operationsOfPaths models (taken ++ first.result.map (·.name)) back
    operationsOfPaths models taken (front ++ back) =
      ⟨first.result ++ others.result, first.warnings ++ others.warnings⟩ := by
  induction front generalizing taken with
  | nil => simp [operationsOfPaths]
  | cons entry rest ih =>
      obtain ⟨path, item⟩ := entry
      simp only [List.cons_append, operationsOfPaths, ih, List.map_append,
        List.append_assoc]

/-- Further paths leave the models and the general information as they are.  The
operations and the warnings that were there stay in their places, and others
come behind them. -/
theorem further_paths_keep_operations {document other : ApiDocument}
    (hmore : Extended document other) :
    (ofDocument other).info = (ofDocument document).info ∧
      (ofDocument other).models = (ofDocument document).models ∧
      (ofDocument document).operations <+: (ofDocument other).operations ∧
      (ofDocument document).warnings <+: (ofDocument other).warnings := by
  obtain ⟨added, hadded⟩ := hmore.paths
  have hpaths :=
    operationsOfPaths_append (modelNames (readableSchemas document.schemas)) []
      document.paths.toList added
  refine ⟨congrArg infoOf hmore.info, ?_, ?_, ?_⟩
  · rw [models_ofDocument, models_ofDocument, hmore.schemas]
  · simp only [ofDocument, hmore.schemas, ← hadded, hpaths]
    exact List.prefix_append _ _
  · simp only [ofDocument, hmore.schemas, ← hadded, hpaths]
    exact (List.prefix_append_right_inj _).mpr (List.prefix_append _ _)

/-- A document with the given paths, each with an operation without any
content. -/
def bareDocument (paths : List String) : ApiDocument where
  openapi := none
  swagger := none
  info := ⟨"T", "1", none⟩
  components := none
  paths := OrderedMap.ofList
    (paths.map fun path => (path, ⟨OrderedMap.ofList [("get", .object [])]⟩))

/-- The further path makes the name that the first path has. -/
theorem further_paths_keep_operations_same_name :
    let document := bareDocument ["/pets-all"]
    let other := bareDocument ["/pets-all", "/pets/all"]
    Extended document other ∧
      (ofDocument document).operations <+: (ofDocument other).operations ∧
      (ofDocument other).operations.map (·.name) =
        ["PetsAllGet", "PetsAllGet2"] := by
  intro document other
  have hmore : Extended document other := ⟨rfl, rfl, [_], rfl⟩
  exact ⟨hmore, (further_paths_keep_operations hmore).2.2.1, by decide +kernel⟩

end Api
end ApiClientGen

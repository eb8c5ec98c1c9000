import ApiClientGen.Proofs.BareNames
import ApiClientGen.Proofs.ListedParts
import ApiClientGen.Proofs.RepeatedRoutes
import ApiClientGen.Proofs.SchemaWarnings

/-!
# Values in place of objects

Component schemas are tested to be objects before they are read; operations and
the schemas of properties are not.  So an array of the right parts passes for
either of them.  Here it is shown that nothing else does: every other value that
is no object gives no operation or no type, and has exactly one warning.
-/

namespace ApiClientGen
namespace Api

open Document (ApiDocument IsObject ListsOperation ListsSchema OperationObject
  PathItem SchemaObject propertyEntries referenceName)
open Json (Value)

/-! ## Values under verbs -/

/-- The document declares an operation under the key of the path. -/
def Declares (document : ApiDocument) (path key : String) : Prop :=
  ∃ declaration ∈ declarations document,
    declaration.path = path ∧ declaration.key = key

/-- Whether a warning says that what stands at the given place cannot be read as
an operation. -/
def Warning.rejectsOperation (location : String) (warning : Warning) : Bool :=
  warning.location == location &&
    warning.cause.pathFault? == some .unreadableOperation

theorem countP_rejectsOperation_keyWarnings (path location : String)
    (entry : String × Value) :
    (keyWarnings path entry).countP (Warning.rejectsOperation location) =
      if entryLocation path entry.1 = location ∧
        (HttpMethod.named? entry.1).isSome = true ∧
        (OperationObject.ofJson entry.2).isOk = false then 1 else 0 := by
  cases hmethod : HttpMethod.named? entry.1 with
  | none =>
      simp only [keyWarnings, readPathEntry,
        HttpMethod.ofKey?_eq_named?, hmethod]
      split <;> simp [Warning.rejectsOperation, Cause.pathFault?]
  | some method =>
      cases hread : OperationObject.ofJson entry.2 with
      | ok object =>
          simp [keyWarnings, readPathEntry, HttpMethod.ofKey?_eq_named?,
            hmethod, hread, Except.isOk, Except.toBool]
      | error error =>
          simp [keyWarnings, readPathEntry, HttpMethod.ofKey?_eq_named?,
            hmethod, hread, Except.isOk, Except.toBool,
            Warning.rejectsOperation, Cause.pathFault?, entryLocation]

/-- Whatever else is wrong at a path or with an operation, no other warning is
mistaken for one about an unreadable operation. -/
theorem countP_rejectsOperation_warnings (document : ApiDocument)
    (location : String) :
    (ofDocument document).warnings.countP (Warning.rejectsOperation location) =
      (document.paths.toList.flatMap fun entry =>
        entry.2.entries.toList.flatMap (keyWarnings entry.1)).countP
          (Warning.rejectsOperation location) := by
  have htest : ∀ warning : Warning, warning.rejectsOperation location = true →
      warning.cause.pathFault? = some .unreadableOperation := by
    simp [Warning.rejectsOperation]
  have hschemas : (ofDocument (withoutPaths document)).warnings.countP
      (Warning.rejectsOperation location) = 0 := by
    apply countP_eq_zero_of_pathFault?_ne htest
    intro warning hmem
    simp [pathFault?_of_mem_withoutPaths hmem]
  have hoperations :
      (operationWarnings (modelNames (readableSchemas document.schemas)) []
        (declarations document)).countP
        (Warning.rejectsOperation location) = 0 := by
    apply countP_eq_zero_of_pathFault?_ne htest
    intro warning hmem
    rw [operationWarnings_eq_flatMap] at hmem
    obtain ⟨⟨declaration, operation⟩, hpair, hmem⟩ := List.mem_flatMap.mp hmem
    obtain ⟨name, rfl⟩ :=
      (List.forall₂_iff_zip.mp (forall₂_lowerFrom _ _ _)).2 hpair
    exact (declaration.reports_warnings _ name).ne_of_eq_zero rfl hmem
  have hitems : ∀ entry : String × PathItem,
      (itemWarnings (modelNames (readableSchemas document.schemas))
        entry).countP (Warning.rejectsOperation location) =
        (entry.2.entries.toList.flatMap (keyWarnings entry.1)).countP
          (Warning.rejectsOperation location) := by
    intro entry
    have hshared := countP_eq_zero_of_pathFault?_ne htest fun warning =>
      (reports_sharedParameters (modelNames (readableSchemas document.schemas))
        entry.1 entry.2).ne_of_eq_zero rfl
    rw [itemWarnings, List.countP_append, hshared, Nat.zero_add]
  rw [warnings_withoutPaths, List.countP_append, hschemas, Nat.zero_add,
    (perm_warnings_operationsOfPaths _ _ _).countP_eq, List.countP_append,
    ← declarations, hoperations, Nat.add_zero, List.countP_flatMap,
    List.countP_flatMap]
  congr 1
  exact List.map_congr_left fun entry _ => hitems entry

theorem entryLocation_injective (path : String) :
    Function.Injective (entryLocation path) :=
  fun _ _ heq => (String.append_right_inj _).mp heq

section Verbs

variable {document : ApiDocument} {path key : String} {item : PathItem}
    {value : Value} {method : HttpMethod}
    (hpath : (path, item) ∈ document.paths.toList)
    (hkey : (key, value) ∈ item.entries.toList)
    (hmethod : HttpMethod.named? key = some method)

include hpath hkey hmethod

theorem declares_iff_isOk :
    Declares document path key ↔
      (OperationObject.ofJson value).isOk = true := by
  constructor
  · rintro ⟨declaration, hmem, rfl, rfl⟩
    obtain ⟨⟨other, otherItem⟩, hother, hmem⟩ := List.mem_flatMap.mp hmem
    obtain ⟨⟨otherKey, otherValue⟩, hentry, hdeclaration⟩ :=
      List.mem_filterMap.mp hmem
    unfold Declaration.ofEntry? at hdeclaration
    split at hdeclaration
    · rename_i named object hnamed hobject
      cases hdeclaration
      have hitem := (lookup_eq_some_iff_mem document.paths.distinct).mpr hpath
      rw [(lookup_eq_some_iff_mem document.paths.distinct).mpr hother,
        Option.some.injEq] at hitem
      subst hitem
      have hvalue :=
        (lookup_eq_some_iff_mem otherItem.entries.distinct).mpr hkey
      rw [(lookup_eq_some_iff_mem otherItem.entries.distinct).mpr hentry,
        Option.some.injEq] at hvalue
      subst hvalue
      simp only at hobject
      rw [hobject]
      rfl
    · cases hdeclaration
  · intro hok
    cases hobject : OperationObject.ofJson value with
    | error error => simp [hobject, Except.isOk, Except.toBool] at hok
    | ok object =>
        have hdeclared : Declaration.ofEntry? path item (key, value) =
            some ⟨path, item, key, method, object⟩ := by
          simp [Declaration.ofEntry?, hmethod, hobject]
        exact ⟨⟨path, item, key, method, object⟩,
          List.mem_flatMap.mpr
            ⟨_, hpath, List.mem_filterMap.mpr ⟨_, hkey, hdeclared⟩⟩, rfl, rfl⟩

theorem countP_rejectsOperation_of_mem :
    (ofDocument document).warnings.countP
      (Warning.rejectsOperation (entryLocation path key)) =
      if (OperationObject.ofJson value).isOk = true then 0 else 1 := by
  have hotherPath : ∀ other ∈ document.paths.toList, ∀ name, other.1 ≠ name →
      (other.2.entries.toList.flatMap (keyWarnings other.1)).countP
        (Warning.rejectsOperation (entryLocation name key)) = 0 := by
    intro other _ name hne
    rw [List.countP_eq_zero]
    intro warning hmem
    obtain ⟨part, -, hmem⟩ := List.mem_flatMap.mp hmem
    have hcount :=
      countP_rejectsOperation_keyWarnings other.1 (entryLocation name key) part
    rw [if_neg] at hcount
    · exact List.countP_eq_zero.mp hcount warning hmem
    · rintro ⟨hlocation, hverb, -⟩
      obtain ⟨otherMethod, hother⟩ := Option.isSome_iff_exists.mp hverb
      exact hne (entryLocation_inj (not_mem_dot_of_named? hother)
        (not_mem_dot_of_named? hmethod)
        hlocation).1
  have hotherKey : ∀ other ∈ item.entries.toList, ∀ name, other.1 ≠ name →
      (keyWarnings path other).countP
        (Warning.rejectsOperation (entryLocation path name)) = 0 := by
    intro other _ name hne
    rw [countP_rejectsOperation_keyWarnings, if_neg]
    rintro ⟨hlocation, -⟩
    exact hne (entryLocation_injective path hlocation)
  have hpaths :=
    countP_flatMap_of_nodup document.paths.distinct hotherPath hpath
  have hkeys := countP_flatMap_of_nodup item.entries.distinct hotherKey hkey
  rw [countP_rejectsOperation_warnings]
  refine (hpaths.trans hkeys).trans ?_
  rw [countP_rejectsOperation_keyWarnings]
  cases (OperationObject.ofJson value).isOk <;> simp [hmethod]

end Verbs

/-! ## Values of properties -/

/-- The type that the array of a schema gives to a property: that of its
reference, or else that of its type. -/
def listedType (models : List String) : Value → ApiType
  | .array (.string reference :: _) =>
    typeOfReference models (referenceName reference)
  | .array (_ :: .string token :: _) => typeOfToken (some token)
  | _ => .any

theorem type_fieldOfProperty_of_listsSchema {models : List String}
    {key : String} {value : Value} (hvalue : ListsSchema value) :
    (fieldOfProperty models (key, value)).type = listedType models value := by
  obtain ⟨items, rfl⟩ : ∃ items, value = .array items := by
    cases hvalue
    exact ⟨_, rfl⟩
  obtain ⟨schema, hread⟩ := SchemaObject.accepts_array_iff.mpr hvalue
  obtain ⟨reference, type, rest, rfl, hreference, htype⟩ :=
    SchemaObject.parts_of_array hread
  simp only [fieldOfProperty, propertyType?, hread, SchemaObject.referencedName,
    SchemaObject.typeToken]
  cases reference with
  | string text =>
      rw [← Except.ok.inj hreference]
      rfl
  | null =>
      rw [← Except.ok.inj hreference]
      cases type <;> (rw [← Except.ok.inj htype]; rfl)
  | _ => cases hreference

/-- Whether a warning says that the given property of the given component schema
is no schema. -/
def Warning.rejectsProperty (name key : String) (warning : Warning) : Bool :=
  warning.location == propertyLocation name key && warning.cause.rejectsProperty

theorem Warning.names_of_rejectsProperty {name : String} {warning : Warning}
    (key : String) (hrejects : warning.rejectsProperty name key = true) :
    warning.names name = true := by
  obtain ⟨hlocation, hcause⟩ : warning.location = propertyLocation name key ∧
      warning.cause.rejectsProperty = true := by
    simpa [Warning.rejectsProperty] using hrejects
  simpa [Warning.names, hcause, hlocation]
    using propertyLocation_begins name key

theorem countP_rejectsProperty_propertyWarning? (models : List String)
    (name key : String) (property : String × Value) :
    (propertyWarning? models (schemaLocation name) property).toList.countP
      (Warning.rejectsProperty name key) =
      if property.1 = key ∧ (SchemaObject.ofJson property.2).isOk = false then 1
      else 0 := by
  rw [propertyWarning?, isNone_propertyType?]
  cases (SchemaObject.ofJson property.2).isOk with
  | true => simp
  | false =>
      have hlocation : schemaLocation name ++ ".properties." ++ property.1 =
          propertyLocation name key ↔
          property.1 = key := (propertyLocation_injective name).eq_iff
      simp [Warning.rejectsProperty, Cause.rejectsProperty, hlocation]

theorem countP_rejectsProperty_warnings {document : ApiDocument}
    {record : RecordModel} {fields : List (String × Value)}
    (hname : Naming.isIdentifier record.name = true)
    (hentry : (record.name, .object fields) ∈ document.schemas)
    (hwarnings : entryWarnings (modelNames (readableSchemas document.schemas))
      (record.name, .object fields) = (propertyEntries fields).filterMap
        (propertyWarning? (modelNames (readableSchemas document.schemas))
          (schemaLocation record.name)))
    {property : String × Value}
    (hproperty : property ∈ propertyEntries fields) :
    (ofDocument document).warnings.countP
      (Warning.rejectsProperty record.name property.1) =
      if (SchemaObject.ofJson property.2).isOk = true then 0 else 1 := by
  have hschemas :=
    countP_warnings_of_names hentry (not_mem_dot_of_isIdentifier hname)
      fun _ => Warning.names_of_rejectsProperty property.1
  have hother : ∀ other ∈ propertyEntries fields, ∀ key, other.1 ≠ key →
      (propertyWarning? (modelNames (readableSchemas document.schemas))
        (schemaLocation record.name)
        other).toList.countP (Warning.rejectsProperty record.name key) = 0 := by
    intro other _ key hne
    rw [countP_rejectsProperty_propertyWarning?,
      if_neg (fun hboth => hne hboth.1)]
  have hproperties :=
    countP_flatMap_of_nodup (nodup_propertyEntries fields) hother hproperty
  rw [hschemas, hwarnings, List.filterMap_eq_flatMap_toList]
  refine hproperties.trans ?_
  rw [countP_rejectsProperty_propertyWarning?]
  cases (SchemaObject.ofJson property.2).isOk <;> simp

/-! ## Arrays in a document -/

/-- If the value under a verb may be read, an operation is declared and no
warning says that it cannot be read; if not, there is one such warning and no
operation. -/
def DeclaredIff (document : ApiDocument) (path key : String) (readable : Prop) :
    Prop :=
  (readable ∧ Declares document path key ∧
      (ofDocument document).warnings.countP
        (Warning.rejectsOperation (entryLocation path key)) = 0) ∨
    (¬ readable ∧ ¬ Declares document path key ∧
      (ofDocument document).warnings.countP
        (Warning.rejectsOperation (entryLocation path key)) = 1)

/-- If the value of a property may be read, its field has the type that is
listed there and no warning says that it is no schema; if not, there is one such
warning and the field has no type. -/
def TypedIff (document : ApiDocument) (name : String)
    (property : String × Value) (field : Field) (readable : Prop) : Prop :=
  (readable ∧
    field.type =
      listedType ((ofDocument document).models.map Model.name) property.2 ∧
    (ofDocument document).warnings.countP
      (Warning.rejectsProperty name property.1) = 0) ∨
    (¬ readable ∧ field.type = .any ∧
      (ofDocument document).warnings.countP
        (Warning.rejectsProperty name property.1) = 1)

theorem declaredIff_listsOperation {document : ApiDocument} {path key : String}
    {item : PathItem} {value : Value}
    (hpath : (path, item) ∈ document.paths.toList)
    (hkey : (key, value) ∈ item.entries.toList)
    (hverb : (HttpMethod.named? key).isSome = true)
    (hvalue : ¬ IsObject value) :
    DeclaredIff document path key (ListsOperation value) := by
  obtain ⟨method, hmethod⟩ := Option.isSome_iff_exists.mp hverb
  have hcount := countP_rejectsOperation_of_mem hpath hkey hmethod
  have hdeclares := declares_iff_isOk hpath hkey hmethod
  have hlists : (OperationObject.ofJson value).isOk = true ↔
      ListsOperation value :=
    Document.isOk_iff_accepts.trans
      (OperationObject.accepts_iff_listsOperation hvalue)
  by_cases hread : (OperationObject.ofJson value).isOk = true
  · exact Or.inl ⟨hlists.mp hread, hdeclares.mpr hread,
      hcount.trans (if_pos hread)⟩
  · exact Or.inr ⟨fun hlisted => hread (hlists.mpr hlisted),
      fun hdeclared => hread (hdeclares.mp hdeclared),
      hcount.trans (if_neg hread)⟩

theorem typedIff_listsSchema {document : ApiDocument} {record : RecordModel}
    {fields : List (String × Value)}
    (hname : Naming.isIdentifier record.name = true)
    (hentry : (record.name, .object fields) ∈ document.schemas)
    (hwarnings : entryWarnings (modelNames (readableSchemas document.schemas))
      (record.name, .object fields) = (propertyEntries fields).filterMap
        (propertyWarning? (modelNames (readableSchemas document.schemas))
          (schemaLocation record.name)))
    {property : String × Value} (hproperty : property ∈ propertyEntries fields)
    (hvalue : ¬ IsObject property.2) :
    TypedIff document record.name property
      (fieldOfProperty (modelNames (readableSchemas document.schemas)) property)
      (ListsSchema property.2) := by
  have hcount :=
    countP_rejectsProperty_warnings hname hentry hwarnings hproperty
  have hlists : (SchemaObject.ofJson property.2).isOk = true ↔
      ListsSchema property.2 :=
    Document.isOk_iff_accepts.trans
      (SchemaObject.accepts_iff_listsSchema hvalue)
  by_cases hread : (SchemaObject.ofJson property.2).isOk = true
  · refine Or.inl ⟨hlists.mp hread, ?_, hcount.trans (if_pos hread)⟩
    rw [map_name_models]
    exact type_fieldOfProperty_of_listsSchema (hlists.mp hread)
  · refine Or.inr ⟨fun hlisted => hread (hlists.mpr hlisted), ?_,
      hcount.trans (if_neg hread)⟩
    have hnone : propertyType? (modelNames (readableSchemas document.schemas))
        property.2 = none := by
      rw [← Option.isNone_iff_eq_none, isNone_propertyType?]
      simpa using hread
    rw [fieldOfProperty, hnone, Option.getD_none]

/-- A component schema that is no object has no model and one warning. -/
theorem skipped_of_not_isObject {document : ApiDocument}
    {entry : String × Value} (hentry : entry ∈ document.schemas)
    (hvalue : ¬ IsObject entry.2) :
    entry.1 ∉ (ofDocument document).models.map Model.name ∧
      (ofDocument document).warnings.countP (Warning.skips entry.1) = 1 := by
  constructor
  · intro hmem
    obtain ⟨model, hmodel, hname⟩ := List.mem_map.mp hmem
    obtain ⟨fields, hobject, -⟩ := exists_object_of_mem_models hmodel
    have hsame : (model.name, Value.object fields) = entry :=
      List.inj_on_of_nodup_map (nodup_names_schemas document) hobject
        hentry hname
    exact hvalue ⟨fields, by rw [← hsame]⟩
  · have hbecomes : becomesModel entry = false := by
      obtain ⟨name, value⟩ := entry
      cases value with
      | object fields => exact (hvalue ⟨fields, rfl⟩).elim
      | _ => rfl
    rw [countP_skips_warnings hentry, hbecomes]
    rfl

/-- Operations are those that are declared.  A value under a verb that is no
object declares one exactly if it is an array of the parts of an operation, and
likewise the value of a property is a schema exactly if it is an array of the
parts of a schema; every other value that is no object has one warning and gives
no operation and no type.  Component schemas that are no objects are always
skipped with a warning. -/
theorem only_listed_parts_pass_for_objects (document : ApiDocument) :
    (ofDocument document).operations.map Operation.route =
      (declarations document).map Declaration.route ∧
      (∀ path item, (path, item) ∈ document.paths.toList →
        ∀ key value, (key, value) ∈ item.entries.toList →
          (HttpMethod.named? key).isSome = true →
          ¬ IsObject value →
          DeclaredIff document path key (ListsOperation value)) ∧
      (∀ record, .record record ∈ (ofDocument document).models →
        ∃ fields, (record.name, .object fields) ∈ document.schemas ∧
          List.Forall₂
            (fun property field => field.originalName = property.1 ∧
              (¬ IsObject property.2 →
                TypedIff document record.name property field
                  (ListsSchema property.2)))
            (propertyEntries fields) record.fields) ∧
      ∀ entry ∈ document.schemas, ¬ IsObject entry.2 →
        entry.1 ∉ (ofDocument document).models.map Model.name ∧
          (ofDocument document).warnings.countP
            (Warning.skips entry.1) = 1 := by
  refine ⟨?_, ?_, ?_,
    fun entry hentry hvalue => skipped_of_not_isObject hentry hvalue⟩
  · rw [operations_ofDocument, map_route_lowerFrom]
  · intro path item hpath key value hkey hverb hvalue
    exact declaredIff_listsOperation hpath hkey hverb hvalue
  · intro record hmem
    obtain ⟨fields, hentry, hfields, hwarnings⟩ :=
      exists_properties_of_mem_models hmem
    have hname : Naming.isIdentifier record.name = true :=
      isIdentifier_of_mem_models hmem
    refine ⟨fields, hentry, ?_⟩
    rw [hfields, List.forall₂_map_right_iff, List.forall₂_same]
    exact fun property hproperty =>
      ⟨rfl, typedIff_listsSchema hname hentry hwarnings hproperty⟩

/-- The parts of an operation, all of them null. -/
def listedOperation : Value :=
  .array [.null, .null, .null, .null]

/-- The parts of a schema that refers to a pet. -/
def listedSchema : Value :=
  .array [.string "#/components/schemas/Pet", .null, .null, .null]

/-- A document with an array for an operation and for the schema of a property,
and with values in the places of an operation, a property and a component schema
that can be none. -/
def listedNodesDocument : ApiDocument where
  openapi := none
  swagger := none
  info := ⟨"T", "1", none⟩
  paths := OrderedMap.ofList
    [("/pets", ⟨OrderedMap.ofList [("get", listedOperation)]⟩),
      ("/shops", ⟨OrderedMap.ofList [("get", .array [])]⟩)]
  components := some ⟨some (OrderedMap.ofList
    [("Pet", .object [("properties",
        .object [("owner", listedSchema), ("age", .number (.integer 3))])]),
      ("Tags", .array [])])⟩

/-- The array of four parts declares an operation, and the empty array declares
none. -/
theorem only_listed_parts_pass_for_objects_pets :
    Declares listedNodesDocument "/pets" "get" ∧
      ¬ Declares listedNodesDocument "/shops" "get" ∧
      "Tags" ∉ (ofDocument listedNodesDocument).models.map Model.name := by
  obtain ⟨-, hverbs, -, hschemas⟩ :=
    only_listed_parts_pass_for_objects listedNodesDocument
  have hpets :=
    hverbs "/pets" _ (.head _) "get" listedOperation (.head _) (by decide)
      (by rintro ⟨_, ⟨⟩⟩)
  have hshops := hverbs "/shops" _ (.tail _ (.head _)) "get" (.array [])
    (.head _) (by decide) (by rintro ⟨_, ⟨⟩⟩)
  have htags :=
    hschemas ("Tags", .array []) (.tail _ (.head _)) (by rintro ⟨_, ⟨⟩⟩)
  have hlisted : ListsOperation listedOperation :=
    .parts (.inl rfl) (.inl rfl) (.inl rfl) (.inl rfl)
  refine ⟨?_, ?_, htags.1⟩
  · rcases hpets with hread | hrejected
    · exact hread.2.1
    · exact (hrejected.1 hlisted).elim
  · rcases hshops with hread | hrejected
    · cases hread.1
    · exact hrejected.2.1

/-- Two arrays become an operation and the schema of a property without a
warning. -/
theorem arrays_pass_for_objects :
    ¬ IsObject listedOperation ∧ ¬ IsObject listedSchema ∧
      (ofDocument listedNodesDocument).operations =
        [bareOperation "PetsGet" "/pets"] ∧
      (ofDocument listedNodesDocument).warnings.countP
        (Warning.rejectsOperation (entryLocation "/pets" "get")) = 0 ∧
      .record ⟨"Pet", none,
        [⟨"Owner", "owner", .model "Pet"⟩, ⟨"Age", "age", .any⟩]⟩ ∈
        (ofDocument listedNodesDocument).models ∧
      (ofDocument listedNodesDocument).warnings.countP
        (Warning.rejectsProperty "Pet" "owner") = 0 := by
  refine ⟨by rintro ⟨_, ⟨⟩⟩, by rintro ⟨_, ⟨⟩⟩, ?_⟩
  decide +kernel

end Api
end ApiClientGen

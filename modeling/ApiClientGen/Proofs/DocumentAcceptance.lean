import ApiClientGen.Document.ApiDocument
import ApiClientGen.Proofs.ShapeAcceptance

/-!
# Which values are API descriptions

A document is tested twice: the keys that have to be there are looked for first,
and then every part is read by its shape.  Both tests together are described
here by what stands where in the value, with no mention of how it is read.  A
value that is refused is refused for the first of the missing keys, and only if
none is missing for its structure.
-/

namespace ApiClientGen
namespace Document

open Json (Value)

/-! ## Descriptions -/

/-- An object with a title and a version, and with a description if one is
given. -/
def IsInfo (value : Value) : Prop :=
  ∃ fields, value = .object fields ∧ RequiredAt IsText fields "title" ∧
    RequiredAt IsText fields "version" ∧ OptionalAt IsText fields "description"

/-- An object of objects. -/
def IsPaths (value : Value) : Prop :=
  ∃ fields, value = .object fields ∧ ∀ entry ∈ fields, IsObject entry.2

/-- An object whose schemas are an object if they are given, or an array with
only these. -/
def IsComponents (value : Value) : Prop :=
  (∃ fields, value = .object fields ∧ OptionalAt IsObject fields "schemas") ∨
    ∃ item, value = .array [item] ∧ (item = .null ∨ IsObject item)

/-- The fields of an API description. -/
structure IsDescription (fields : List (String × Value)) : Prop where
  info : RequiredAt IsInfo fields "info"
  paths : RequiredAt IsPaths fields "paths"
  openapi : OptionalAt IsText fields "openapi"
  swagger : OptionalAt IsText fields "swagger"
  components : OptionalAt IsComponents fields "components"

/-- What stands at the end of a path of keys. -/
def valueAt? : Value → List String → Option Value
  | value, [] => some value
  | .object fields, key :: rest => (fields.lookup key).bind (valueAt? · rest)
  | _, _ :: _ => none

/-- The keys that have to be there, in the order in which they are looked
for. -/
def requiredPaths : List (List String) :=
  [["info"], ["info", "title"], ["info", "version"], ["paths"]]

/-- The first of the required keys that is not there. -/
def firstMissing? (value : Value) : Option (List String) :=
  requiredPaths.find? fun path => (valueAt? value path).isNone

inductive FaultOf (value : Value) : DocumentError → Prop where
  | notAnObject (hvalue : ¬ IsObject value) : FaultOf value .notAnObject
  | missingField {path : List String} (hvalue : IsObject value)
      (hmissing : firstMissing? value = some path) :
      FaultOf value (.missingField (String.intercalate "." path))
  | invalidStructure (cause : ShapeError) (hvalue : IsObject value)
      (hpresent : firstMissing? value = none) :
      FaultOf value (.invalidStructure cause)

def entriesOf : Option Value → List (String × Value)
  | some (.object fields) => fields
  | _ => []

/-- The component schemas, as they stand in the value of the key
`components`. -/
def schemaEntries : Option Value → List (String × Value)
  | some (.object fields) => entriesOf (fields.lookup "schemas")
  | some (.array [item]) => entriesOf (some item)
  | _ => []

/-- The paths of a document, the entries of each and the component schemas are
those of a value, in the same order. -/
structure KeepsEntries (value : Value) (document : ApiDocument) : Prop where
  paths : valueAt? value ["paths"] =
    some (.object (document.paths.toList.map fun entry =>
      (entry.1, .object entry.2.entries.toList)))
  schemas : document.schemas = schemaEntries (valueAt? value ["components"])

/-! ## The parts of a document -/

section Parts

variable {fields : List (String × Value)}

theorem OptionalAt.congr {p q : Value → Prop} {key : String}
    (hiff : ∀ value, fields.lookup key = some value → (p value ↔ q value)) :
    OptionalAt p fields key ↔ OptionalAt q fields key := by
  unfold OptionalAt RequiredAt
  cases hvalue : fields.lookup key with
  | none => simp
  | some value => simp [hiff value hvalue]

theorem Info.ofFields_eq_ok_iff (hkeys : (entryKeys fields).Nodup)
    {info : Info} :
    Info.ofFields fields = .ok info ↔
      required fields "title" string = .ok info.title ∧
        required fields "version" string = .ok info.version ∧
        optionalField fields "description" string = .ok info.description := by
  constructor
  · intro hinfo
    simp only [Info.ofFields, bind_eq_ok_iff] at hinfo
    obtain ⟨-, -, title, htitle, version, hversion, description, hdescription,
      hnode⟩ := hinfo
    cases hnode
    exact ⟨htitle, hversion, hdescription⟩
  · rintro ⟨htitle, hversion, hdescription⟩
    have hcheck : checkFields Info.checks fields = .ok () := by
      apply checkFields_eq_ok hkeys
      simp only [Info.checks, List.forall_mem_cons, List.not_mem_nil,
        false_implies, implies_true, and_true]
      exact ⟨fun _ => check_of_required htitle,
        fun _ => check_of_required hversion,
        fun _ => check_of_optionalField hdescription⟩
    simp [Info.ofFields, hcheck, htitle, hversion, hdescription, bind,
      Except.bind]

theorem Info.accepts_object_iff (hkeys : (entryKeys fields).Nodup) :
    Accepts Info.ofJson (.object fields) ↔ IsInfo (.object fields) := by
  have hinfo : Accepts Info.ofJson (.object fields) ↔
      RequiredAt IsText fields "title" ∧ RequiredAt IsText fields "version" ∧
        OptionalAt IsText fields "description" := by
    rw [← accepts_string, ← accepts_required_iff, ← accepts_required_iff,
      ← accepts_optionalField_iff]
    constructor
    · rintro ⟨info, hinfo⟩
      obtain ⟨htitle, hversion, hdescription⟩ :=
        (Info.ofFields_eq_ok_iff hkeys).mp hinfo
      exact ⟨⟨_, htitle⟩, ⟨_, hversion⟩, ⟨_, hdescription⟩⟩
    · rintro ⟨⟨title, htitle⟩, ⟨version, hversion⟩, ⟨description, hdescription⟩⟩
      exact ⟨⟨title, version, description⟩,
        (Info.ofFields_eq_ok_iff hkeys).mpr ⟨htitle, hversion, hdescription⟩⟩
  simpa [IsInfo] using hinfo

theorem PathItem.accepts_ofJson : Accepts PathItem.ofJson = IsObject := by
  rw [← accepts_mapOf_raw]
  funext value
  simp [Accepts, PathItem.ofJson, map_eq_ok_iff]

theorem accepts_paths : Accepts (mapOf PathItem.ofJson) = IsPaths := by
  funext value
  rw [accepts_mapOf_iff, PathItem.accepts_ofJson, IsPaths]

theorem Components.ofFields_eq_ok_iff (hkeys : (entryKeys fields).Nodup)
    {components : Components} :
    Components.ofFields fields = .ok components ↔
      optionalField fields "schemas" (mapOf raw) = .ok components.schemas := by
  constructor
  · intro hcomponents
    simp only [Components.ofFields, bind_eq_ok_iff] at hcomponents
    obtain ⟨-, -, schemas, hschemas, hnode⟩ := hcomponents
    cases hnode
    exact hschemas
  · intro hschemas
    have hcheck : checkFields Components.checks fields = .ok () := by
      apply checkFields_eq_ok hkeys
      simp only [Components.checks, List.forall_mem_cons, List.not_mem_nil,
        false_implies, implies_true, and_true]
      exact fun _ => check_of_optionalField hschemas
    simp [Components.ofFields, hcheck, hschemas, bind, Except.bind]

theorem Components.ofItems_eq_ok_iff {items : List Value}
    {components : Components} :
    Components.ofItems items = .ok components ↔
      ∃ item, items = [item] ∧
        optional (mapOf raw) item = .ok components.schemas := by
  rw [Components.ofItems, bind_eq_ok_iff]
  match items with
  | [] => simp [itemAt]
  | [item] =>
      constructor
      · rintro ⟨schemas, hschemas, hnode⟩
        simp only [noMoreThan, bind_eq_ok_iff] at hnode
        obtain ⟨-, -, hnode⟩ := hnode
        cases hnode
        exact ⟨item, rfl, hschemas⟩
      · rintro ⟨_, hitem, hschemas⟩
        cases hitem
        exact ⟨components.schemas, hschemas, rfl⟩
  | item :: next :: rest => simp [noMoreThan, bind_eq_ok_iff]

theorem Components.accepts_ofJson_iff {value : Value}
    (hvalue : value.KeysDistinct) :
    Accepts Components.ofJson value ↔ IsComponents value := by
  cases value with
  | object fields =>
      have hfields : Accepts Components.ofJson (.object fields) ↔
          OptionalAt IsObject fields "schemas" := by
        rw [← accepts_mapOf_raw, ← accepts_optionalField_iff]
        constructor
        · rintro ⟨components, hcomponents⟩
          exact ⟨_,
            (Components.ofFields_eq_ok_iff hvalue.nodup_keys).mp hcomponents⟩
        · rintro ⟨schemas, hschemas⟩
          exact ⟨⟨schemas⟩,
            (Components.ofFields_eq_ok_iff hvalue.nodup_keys).mpr hschemas⟩
      simpa [IsComponents] using hfields
  | array items =>
      have hitems : Accepts Components.ofJson (.array items) ↔
          ∃ item, items = [item] ∧ Accepts (optional (mapOf raw)) item := by
        constructor
        · rintro ⟨components, hcomponents⟩
          obtain ⟨item, hitem, hschemas⟩ :=
            Components.ofItems_eq_ok_iff.mp hcomponents
          exact ⟨item, hitem, _, hschemas⟩
        · rintro ⟨item, hitem, schemas, hschemas⟩
          exact ⟨⟨schemas⟩,
            Components.ofItems_eq_ok_iff.mpr ⟨item, hitem, hschemas⟩⟩
      simpa [IsComponents, accepts_optional_iff, accepts_mapOf_raw] using hitems
  | _ => simp [IsComponents, Accepts, Components.ofJson, record]

theorem ApiDocument.ofFields_eq_ok_iff (hkeys : (entryKeys fields).Nodup)
    {document : ApiDocument} :
    ApiDocument.ofFields fields = .ok document ↔
      optionalField fields "openapi" string = .ok document.openapi ∧
        optionalField fields "swagger" string = .ok document.swagger ∧
        required fields "info" Info.ofJson = .ok document.info ∧
        required fields "paths" (mapOf PathItem.ofJson) = .ok document.paths ∧
        optionalField fields "components" Components.ofJson =
          .ok document.components := by
  constructor
  · intro hdocument
    simp only [ApiDocument.ofFields, bind_eq_ok_iff] at hdocument
    obtain ⟨-, -, openapi, hopenapi, swagger, hswagger, info, hinfo, paths,
      hpaths, components, hcomponents, hnode⟩ := hdocument
    cases hnode
    exact ⟨hopenapi, hswagger, hinfo, hpaths, hcomponents⟩
  · rintro ⟨hopenapi, hswagger, hinfo, hpaths, hcomponents⟩
    have hcheck : checkFields ApiDocument.checks fields = .ok () := by
      apply checkFields_eq_ok hkeys
      simp only [ApiDocument.checks, List.forall_mem_cons, List.not_mem_nil,
        false_implies, implies_true, and_true]
      exact ⟨fun _ => check_of_optionalField hopenapi,
        fun _ => check_of_optionalField hswagger,
        fun _ => check_of_required hinfo, fun _ => check_of_required hpaths,
        fun _ => check_of_optionalField hcomponents⟩
    simp [ApiDocument.ofFields, hcheck, hopenapi, hswagger, hinfo, hpaths,
      hcomponents, bind, Except.bind]

end Parts

/-! ## The keys that are looked for -/

namespace ApiDocument

variable {fields : List (String × Value)}

@[simp]
theorem valueAt?_object_singleton (key : String) :
    valueAt? (.object fields) [key] = fields.lookup key := by
  simp [valueAt?]

theorem hasKey_eq_isSome (key : String) (value : Value) :
    hasKey key value = (valueAt? value [key]).isSome := by
  cases value with
  | object fields => simp [hasKey]
  | _ => rfl

/-- A missing key is reported by its path. -/
theorem missingKey?_eq (fields : List (String × Value)) :
    missingKey? fields =
      (firstMissing? (.object fields)).map (String.intercalate ".") := by
  unfold missingKey? firstMissing? requiredPaths
  cases hinfo : fields.lookup "info" with
  | none => simp [valueAt?, hinfo]
  | some info =>
      have hinner : ∀ key,
          valueAt? (.object fields) ["info", key] = valueAt? info [key] := by
        intro key
        rw [valueAt?, hinfo, Option.bind_some]
      simp only [hasKey_eq_isSome, valueAt?_object_singleton, hinfo, hinner,
        List.find?_cons]
      cases valueAt? info ["title"] with
      | none => rfl
      | some title =>
          cases valueAt? info ["version"] with
          | none => rfl
          | some version =>
              cases fields.lookup "paths" with
              | none => rfl
              | some paths => rfl

/-- No required key is missing exactly if `info` is an object with a title and a
version, whatever these are, and `paths` is there. -/
theorem firstMissing?_eq_none_iff :
    firstMissing? (.object fields) = none ↔
      (∃ infoFields, fields.lookup "info" = some (.object infoFields) ∧
        (infoFields.lookup "title").isSome ∧
        (infoFields.lookup "version").isSome) ∧
        (fields.lookup "paths").isSome := by
  have hall : firstMissing? (.object fields) = none ↔
      ∀ path ∈ requiredPaths, (valueAt? (.object fields) path).isSome := by
    simp [firstMissing?, Option.isSome_iff_ne_none]
  rw [hall]
  simp only [requiredPaths, List.forall_mem_cons, List.not_mem_nil,
    false_implies, implies_true, and_true]
  cases hinfo : fields.lookup "info" with
  | none => simp [hinfo]
  | some info =>
      cases info with
      | object infoFields => simp [valueAt?, hinfo, and_assoc]
      | _ => simp [valueAt?, hinfo]

/-! ## Reading a document -/

theorem accepts_ofFields_iff (hvalue : (Value.object fields).KeysDistinct)
    (hpresent : firstMissing? (.object fields) = none) :
    (∃ document, ofFields fields = .ok document) ↔ IsDescription fields := by
  obtain ⟨⟨infoFields, hinfo, -, -⟩, -⟩ := firstMissing?_eq_none_iff.mp hpresent
  have hinfoIff : RequiredAt (Accepts Info.ofJson) fields "info" ↔
      RequiredAt IsInfo fields "info" := by
    have hkeys := (hvalue.of_lookup hinfo).nodup_keys
    simp [RequiredAt, hinfo, Info.accepts_object_iff hkeys]
  have hcomponentsIff :
      OptionalAt (Accepts Components.ofJson) fields "components" ↔
        OptionalAt IsComponents fields "components" :=
    OptionalAt.congr fun _ hcomponents =>
      Components.accepts_ofJson_iff (hvalue.of_lookup hcomponents)
  constructor
  · rintro ⟨document, hdocument⟩
    obtain ⟨hopenapi, hswagger, hinfo, hpaths, hcomponents⟩ :=
      (ofFields_eq_ok_iff hvalue.nodup_keys).mp hdocument
    exact
      { info := hinfoIff.mp (accepts_required_iff.mp ⟨_, hinfo⟩)
        paths := accepts_paths ▸ accepts_required_iff.mp ⟨_, hpaths⟩
        openapi := accepts_string ▸ accepts_optionalField_iff.mp ⟨_, hopenapi⟩
        swagger := accepts_string ▸ accepts_optionalField_iff.mp ⟨_, hswagger⟩
        components :=
          hcomponentsIff.mp (accepts_optionalField_iff.mp ⟨_, hcomponents⟩) }
  · intro hdescription
    obtain ⟨openapi, hopenapi⟩ :=
      accepts_optionalField_iff.mpr (accepts_string ▸ hdescription.openapi)
    obtain ⟨swagger, hswagger⟩ :=
      accepts_optionalField_iff.mpr (accepts_string ▸ hdescription.swagger)
    obtain ⟨info, hinfo⟩ :=
      accepts_required_iff.mpr (hinfoIff.mpr hdescription.info)
    obtain ⟨paths, hpaths⟩ :=
      accepts_required_iff.mpr (accepts_paths ▸ hdescription.paths)
    obtain ⟨components, hcomponents⟩ :=
      accepts_optionalField_iff.mpr (hcomponentsIff.mpr hdescription.components)
    exact ⟨⟨openapi, swagger, info, paths, components⟩,
      (ofFields_eq_ok_iff hvalue.nodup_keys).mpr
        ⟨hopenapi, hswagger, hinfo, hpaths, hcomponents⟩⟩

/-- A description lacks none of the required keys. -/
theorem firstMissing?_of_isDescription (hdescription : IsDescription fields) :
    firstMissing? (.object fields) = none := by
  obtain ⟨_, hinfo, infoFields, rfl, htitle, hversion, -⟩ := hdescription.info
  obtain ⟨paths, hpaths, -⟩ := hdescription.paths
  obtain ⟨title, htitle, -⟩ := htitle
  obtain ⟨version, hversion, -⟩ := hversion
  rw [firstMissing?_eq_none_iff]
  exact ⟨⟨infoFields, hinfo, by simp [htitle], by simp [hversion]⟩,
    by simp [hpaths]⟩

/-- A value is read exactly if no key is missing and its fields are read. -/
theorem ofJson_eq_ok_iff {value : Value} {document : ApiDocument} :
    ofJson value = .ok document ↔
      ∃ fields, value = .object fields ∧ firstMissing? value = none ∧
        ofFields fields = .ok document := by
  cases value with
  | object fields =>
      rw [ofJson, missingKey?_eq]
      cases hmissing : firstMissing? (.object fields) with
      | some path => simp
      | none =>
          cases hread : ofFields fields with
          | ok other => simp [hread, Except.mapError]
          | error cause => simp [hread, Except.mapError]
  | _ => simp [ofJson]

theorem faultOf_of_ofJson_eq_error {value : Value} {error : DocumentError}
    (herror : ofJson value = .error error) : FaultOf value error := by
  cases value with
  | object fields =>
      have hobject : IsObject (.object fields) := ⟨fields, rfl⟩
      rw [ofJson, missingKey?_eq] at herror
      cases hmissing : firstMissing? (.object fields) with
      | some path =>
          rw [hmissing] at herror
          cases herror
          exact .missingField hobject hmissing
      | none =>
          rw [hmissing] at herror
          cases hread : ofFields fields with
          | ok document => simp [hread, Except.mapError] at herror
          | error cause =>
              rw [hread] at herror
              cases herror
              exact .invalidStructure cause hobject hmissing
  | _ =>
      cases herror
      exact .notAnObject (by simp [IsObject])

/-! ## The entries that a document keeps -/

theorem eq_object_of_pathItem {value : Value} (hvalue : value.KeysDistinct)
    {item : PathItem} (hitem : PathItem.ofJson value = .ok item) :
    value = .object item.entries.toList := by
  obtain ⟨entries, hentries, rfl⟩ := map_eq_ok_iff.mp hitem
  exact eq_object_of_mapOf_raw hvalue hentries

theorem eq_object_of_paths {value : Value} (hvalue : value.KeysDistinct)
    {paths : OrderedMap PathItem}
    (hpaths : mapOf PathItem.ofJson value = .ok paths) :
    value = .object (paths.toList.map fun entry =>
      (entry.1, .object entry.2.entries.toList)) := by
  obtain ⟨fields, rfl, hrelated⟩ := exists_forall₂_of_mapOf_eq_ok hvalue hpaths
  have hdistinct := (Value.keysDistinct_object_iff.mp hvalue).2
  clear hvalue hpaths
  generalize paths.toList = nodes at hrelated ⊢
  congr 1
  rw [← List.forall₂_eq_eq_eq, List.forall₂_map_right_iff]
  induction hrelated with
  | nil => exact List.Forall₂.nil
  | cons hnode _ ih =>
      rw [List.forall_mem_cons] at hdistinct
      refine List.Forall₂.cons ?_ (ih hdistinct.2)
      rw [← eq_object_of_pathItem hdistinct.1 hnode.2, hnode.1]

/-- The component schemas that were read, if there are any. -/
def schemasOf (components : Option Components) : List (String × Value) :=
  ((components.bind (·.schemas)).map OrderedMap.toList).getD []

theorem schemas_eq_schemasOf (document : ApiDocument) :
    document.schemas = schemasOf document.components := by
  unfold schemas schemasOf
  split
  · rename_i hcomponents
    simp [hcomponents]
  · rename_i hother
    cases hcomponents : document.components with
    | none => rfl
    | some components =>
        cases hschemas : components.schemas with
        | none => simp [hschemas]
        | some schemas =>
            apply (hother schemas _).elim
            rw [hcomponents, ← hschemas]

theorem entriesOf_of_mapOf {value : Value} (hvalue : value.KeysDistinct)
    {m : OrderedMap Value} (hm : mapOf raw value = .ok m) :
    entriesOf (some value) = m.toList := by
  rw [eq_object_of_mapOf_raw hvalue hm, entriesOf]

theorem schemaEntries_of_components {value : Value}
    (hvalue : value.KeysDistinct) {components : Components}
    (hcomponents : Components.ofJson value = .ok components) :
    schemaEntries (some value) = schemasOf (some components) := by
  unfold schemasOf
  cases value with
  | object fields =>
      have hschemas :=
        (Components.ofFields_eq_ok_iff hvalue.nodup_keys).mp hcomponents
      rw [schemaEntries, Option.bind_some]
      rcases optionalField_cases hschemas with
        ⟨hnone | hnull, hnode⟩ | ⟨inner, m, hinner, hm, hnode⟩
      · rw [hnone, hnode]
        rfl
      · rw [hnull, hnode]
        rfl
      · rw [hinner, hnode]
        exact entriesOf_of_mapOf (hvalue.of_lookup hinner) hm
  | array items =>
      obtain ⟨item, rfl, hschemas⟩ :=
        Components.ofItems_eq_ok_iff.mp hcomponents
      rw [schemaEntries, Option.bind_some]
      rcases optional_cases hschemas with ⟨hnull, hnode⟩ | ⟨m, hm, hnode⟩
      · rw [hnull, hnode]
        rfl
      · rw [hnode]
        have hitem := Value.keysDistinct_array_iff.mp hvalue item
          (List.mem_singleton_self item)
        exact entriesOf_of_mapOf hitem hm
  | _ => simp [Components.ofJson, record] at hcomponents

theorem schemas_of_ofFields {document : ApiDocument}
    (hvalue : (Value.object fields).KeysDistinct)
    (hcomponents : optionalField fields "components" Components.ofJson =
      .ok document.components) :
    document.schemas = schemaEntries (fields.lookup "components") := by
  rw [schemas_eq_schemasOf]
  rcases optionalField_cases hcomponents with
    ⟨hnone | hnull, hnode⟩ | ⟨value, inner, hlookup, hread, hnode⟩
  · rw [hnone, hnode]
    rfl
  · rw [hnull, hnode]
    rfl
  · rw [hlookup, hnode,
      schemaEntries_of_components (hvalue.of_lookup hlookup) hread]

theorem keepsEntries_of_ofFields {document : ApiDocument}
    (hvalue : (Value.object fields).KeysDistinct)
    (hdocument : ofFields fields = .ok document) :
    KeepsEntries (.object fields) document := by
  obtain ⟨-, -, -, hpaths, hcomponents⟩ :=
    (ofFields_eq_ok_iff hvalue.nodup_keys).mp hdocument
  constructor
  · rw [required] at hpaths
    cases hlookup : fields.lookup "paths" with
    | none => simp [hlookup] at hpaths
    | some value =>
        rw [hlookup] at hpaths
        rw [valueAt?_object_singleton, hlookup,
          eq_object_of_paths (hvalue.of_lookup hlookup) hpaths]
  · rw [valueAt?_object_singleton]
    exact schemas_of_ofFields hvalue hcomponents

/-! ## Acceptance -/

/-- The value is an object that describes an API. -/
def IsApiDescription (value : Value) : Prop :=
  ∃ fields, value = .object fields ∧ IsDescription fields

theorem accepts_ofJson_iff {value : Value} (hvalue : value.KeysDistinct) :
    (∃ document, ofJson value = .ok document) ↔ IsApiDescription value := by
  constructor
  · rintro ⟨document, hdocument⟩
    obtain ⟨fields, rfl, hpresent, hread⟩ := ofJson_eq_ok_iff.mp hdocument
    exact ⟨fields, rfl,
      (accepts_ofFields_iff hvalue hpresent).mp ⟨document, hread⟩⟩
  · rintro ⟨fields, rfl, hdescription⟩
    have hpresent := firstMissing?_of_isDescription hdescription
    obtain ⟨document, hread⟩ :=
      (accepts_ofFields_iff hvalue hpresent).mpr hdescription
    exact ⟨document, ofJson_eq_ok_iff.mpr ⟨fields, rfl, hpresent, hread⟩⟩

/-- A value is read exactly if it describes an API.  The document that is read
has the paths, the entries of each path and the component schemas of the value,
and the fault of a value that is refused is the first that applies. -/
theorem reading_is_exact (value : Value) (hvalue : value.KeysDistinct) :
    ((∃ document, ofJson value = .ok document) ↔ IsApiDescription value) ∧
      (∀ document, ofJson value = .ok document → KeepsEntries value document) ∧
      ∀ error, ofJson value = .error error → FaultOf value error := by
  refine ⟨accepts_ofJson_iff hvalue, ?_,
    fun error => faultOf_of_ofJson_eq_error⟩
  intro document hdocument
  obtain ⟨fields, rfl, -, hread⟩ := ofJson_eq_ok_iff.mp hdocument
  exact keepsEntries_of_ofFields hvalue hread

/-- A description whose components are an array, with keys in no usual order. -/
def unorderedValue : Value :=
  .object
    [("components", .array [.object [("Pet", .bool true), ("Status", .null)]]),
      ("paths", .object [("/b", .object [("x-a", .null)]), ("/a", .object [])]),
      ("info", .object [("version", .string "1"), ("description", .null),
        ("title", .string "Pets")]), ("swagger", .string "2.0")]

theorem reading_is_exact_unordered :
    unorderedValue.KeysDistinct ∧ IsApiDescription unorderedValue ∧
      ∃ document, ofJson unorderedValue = .ok document ∧
        KeepsEntries unorderedValue document := by
  have hvalue : unorderedValue.KeysDistinct := by
    simp [unorderedValue, entryKeys]
  obtain ⟨haccepts, hkeeps, -⟩ := reading_is_exact unorderedValue hvalue
  have hread : ∃ document, ofJson unorderedValue = .ok document := ⟨_, rfl⟩
  obtain ⟨document, hdocument⟩ := hread
  exact ⟨hvalue, haccepts.mp ⟨document, hdocument⟩, document, hdocument,
    hkeeps document hdocument⟩

end ApiDocument
end Document
end ApiClientGen

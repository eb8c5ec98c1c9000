import ApiClientGen.Document.ApiDocument
import ApiClientGen.Proofs.DocumentAcceptance
import ApiClientGen.Proofs.NodeParts

/-!
# Typed nodes are read back from what is written for them

A node does not remember the value it was read from: unknown keys are dropped,
an array becomes an object, and null and a missing key become the same.  What is
written for a node is nevertheless read as the node itself, at every depth and
with every map in its order.

Two things could stand in the way.  A part that is written as null would be read
as missing, and a node given in place could be taken for a reference.  The first
happens only to a schema whose type is null, and no value is read as such a
schema; the second never happens, since no node is written with the key of a
reference.
-/

namespace ApiClientGen
namespace Document

open Json (Value)

/-! ## Written fields -/

@[simp]
theorem lookup_field (key other : String) (value : Value) :
    (field key value).lookup other =
      if other = key then some value else none := by
  by_cases hkey : other = key
  · simp [field, hkey]
  · have htest : (other == key) = false := beq_eq_false_iff_ne.mpr hkey
    simp [field, List.lookup_cons, htest, hkey]

@[simp]
theorem lookup_fieldOf {α : Type} (key other : String) (write : α → Value)
    (node : Option α) :
    (fieldOf key write node).lookup other =
      if other = key then node.map write else none := by
  cases node with
  | none => simp [fieldOf]
  | some inner => exact lookup_field key other (write inner)

/-- The keys of the fields are among the given keys, in this order. -/
def KeysAmong (keys : List String) (fields : List (String × Value)) : Prop :=
  (entryKeys fields).Sublist keys

namespace KeysAmong

variable {keys others : List String} {fields rest : List (String × Value)}

theorem field (key : String) (value : Value) :
    KeysAmong [key] (field key value) :=
  List.Sublist.refl [key]

theorem fieldOf {α : Type} (key : String) (write : α → Value)
    (node : Option α) :
    KeysAmong [key] (fieldOf key write node) := by
  cases node with
  | none => exact List.nil_sublist [key]
  | some inner => exact field key (write inner)

theorem append (hfields : KeysAmong keys fields)
    (hrest : KeysAmong others rest) :
    KeysAmong (keys ++ others) (fields ++ rest) := by
  unfold KeysAmong entryKeys
  rw [List.map_append]
  exact List.Sublist.append hfields hrest

theorem nodup (hfields : KeysAmong keys fields) (hkeys : keys.Nodup) :
    (entryKeys fields).Nodup :=
  hkeys.sublist hfields

end KeysAmong

/-! ## Reading parts back -/

section Parts

variable {α : Type} {shape : Shape α} {write : α → Value}
    {fields : List (String × Value)} {key name : String}

theorem required_eq_ok (write : α → Value) {node : α}
    (hlookup : fields.lookup key = some (write node))
    (hnode : shape (write node) = .ok node) :
    required fields key shape = .ok node := by
  rw [required, hlookup]
  exact hnode

theorem optional_eq_ok {node : α} {value : Value} (hvalue : value ≠ .null)
    (hnode : shape value = .ok node) :
    optional shape value = .ok (some node) := by
  unfold optional
  split
  · exact (hvalue rfl).elim
  · rw [hnode]
    rfl

/-- A part that may be missing is read back unless it is written as null. -/
theorem optionalField_eq_ok (write : α → Value) {part : Option α}
    (hlookup : fields.lookup key = part.map write)
    (hnull : ∀ node, part = some node → write node ≠ .null)
    (hpart : ∀ node, part = some node → shape (write node) = .ok node) :
    optionalField fields key shape = .ok part := by
  rw [optionalField, hlookup]
  cases part with
  | none => rfl
  | some node => exact optional_eq_ok (hnull node rfl) (hpart node rfl)

theorem listOf_array {nodes : List α}
    (hnodes : ∀ node ∈ nodes, shape (write node) = .ok node) :
    listOf shape (.array (nodes.map write)) = .ok nodes := by
  show readAll shape (nodes.map write) = .ok nodes
  induction nodes with
  | nil => rfl
  | cons node rest ih =>
      rw [List.forall_mem_cons] at hnodes
      simp only [List.map_cons, readAll, hnodes.1, ih hnodes.2]
      rfl

theorem mapOf_mapValue {m : OrderedMap α}
    (hentries : ∀ entry ∈ m.toList, shape (write entry.2) = .ok entry.2) :
    mapOf shape (mapValue write m) = .ok m := by
  have hread :
      readEntries shape (m.toList.map fun entry => (entry.1, write entry.2)) =
        .ok m.toList := by
    rw [readEntries_eq_ok_iff, List.forall₂_map_left_iff, List.forall₂_same]
    exact fun entry hentry => ⟨rfl, hentries entry hentry⟩
  have hsame : OrderedMap.ofList m.toList = m :=
    OrderedMap.ext (OrderedMap.toList_ofList m.distinct)
  rw [mapValue, mapOf, hread, Except.map, hsame]

theorem mapOf_raw_mapValue (m : OrderedMap Value) :
    mapOf raw (mapValue id m) = .ok m :=
  mapOf_mapValue fun _ _ => rfl

/-- A node given in place is not taken for a reference if it is written without
the key of one. -/
theorem refOr_toJson {ref : RefOr α}
    (hinline : ∀ node, ref = .inline node →
      referencePath? (write node) = none ∧ shape (write node) = .ok node) :
    RefOr.ofJson name shape (ref.toJson write) = .ok ref := by
  cases ref with
  | reference path =>
      simp [RefOr.ofJson, RefOr.toJson, referencePath?, lookup_field]
  | inline node =>
      obtain ⟨hreference, hnode⟩ := hinline node rfl
      simp [RefOr.ofJson, RefOr.toJson, hreference, hnode]

end Parts

/-! ## Nodes that some value is read as -/

/-- The type of the schema is not null. -/
def SchemaObject.Proper (schema : SchemaObject) : Prop :=
  schema.type ≠ some .null

def ParameterObject.Proper (parameter : ParameterObject) : Prop :=
  ∀ schema, parameter.schema = some schema → schema.Proper

def MediaType.Proper (media : MediaType) : Prop :=
  ∀ schema, media.schema = some schema → schema.Proper

def RequestBody.Proper (body : RequestBody) : Prop :=
  ∀ entry ∈ body.content.toList, entry.2.Proper

/-- A node given in place has the property. -/
def RefOr.ForInline {α : Type} (property : α → Prop) (ref : RefOr α) : Prop :=
  ∀ node, ref = .inline node → property node

/-- The parameters and the body of the operation are proper where they are given
in place. -/
structure OperationObject.Proper (operation : OperationObject) : Prop where
  parameters : ∀ parameters, operation.parameters = some parameters →
    ∀ parameter ∈ parameters, parameter.ForInline ParameterObject.Proper
  requestBody : ∀ body,
    operation.requestBody = some body → body.ForInline RequestBody.Proper

/-- The proper nodes are those that some value is read as, and each is read back
from its written form, whatever the value was that it was first read from. -/
structure ReadsBack {α : Type} (shape : Shape α) (write : α → Value)
    (Proper : α → Prop) : Prop where
  read_iff : ∀ node, (∃ value, shape value = .ok node) ↔ Proper node
  again : ∀ value node, shape value = .ok node → shape (write node) = .ok node

namespace ReadsBack

variable {α : Type} {shape : Shape α} {write : α → Value} {Proper : α → Prop}

theorem of_proper (hproper : ∀ node, Yields shape node → Proper node)
    (hwritten : ∀ node, Proper node → shape (write node) = .ok node) :
    ReadsBack shape write Proper where
  read_iff := fun node =>
    ⟨hproper node, fun hnode => ⟨write node, hwritten node hnode⟩⟩
  again := fun value node hnode => hwritten node (hproper node ⟨value, hnode⟩)

theorem of_written (hwritten : ∀ node, shape (write node) = .ok node) :
    ReadsBack shape write fun _ => True :=
  of_proper (fun _ _ => trivial) fun node _ => hwritten node

theorem written (h : ReadsBack shape write Proper) {node : α}
    (hnode : Proper node) :
    shape (write node) = .ok node := by
  obtain ⟨value, hvalue⟩ := (h.read_iff node).mpr hnode
  exact h.again value node hvalue

theorem proper (h : ReadsBack shape write Proper) {node : α}
    (hnode : Yields shape node) :
    Proper node :=
  (h.read_iff node).mp hnode

theorem refOr (h : ReadsBack shape write Proper) (name : String)
    (hwrite : ∀ node, referencePath? (write node) = none) :
    ReadsBack (RefOr.ofJson name shape) (RefOr.toJson write)
      (RefOr.ForInline Proper) := by
  apply of_proper
  · rintro _ hyields node rfl
    exact h.proper hyields.of_refOr
  · intro ref hproper
    exact refOr_toJson fun node hinline =>
      ⟨hwrite node, h.written (hproper node hinline)⟩

end ReadsBack

/-! ## Information, paths and components -/

theorem Info.ofJson_toJson (info : Info) : ofJson info.toJson = .ok info := by
  refine (ofFields_eq_ok_iff ?_).mpr ⟨?_, ?_, ?_⟩
  · exact (((KeysAmong.field ..).append (.field ..)).append (.fieldOf ..)).nodup
      (by decide)
  · exact required_eq_ok .string (by simp [List.lookup_append]) rfl
  · exact required_eq_ok .string (by simp [List.lookup_append]) rfl
  · exact optionalField_eq_ok .string (by simp [List.lookup_append]) (by simp)
      fun _ _ => rfl

theorem PathItem.ofJson_toJson (item : PathItem) :
    ofJson item.toJson = .ok item := by
  rw [ofJson, toJson, mapOf_raw_mapValue]
  rfl

theorem Components.ofJson_toJson (components : Components) :
    ofJson components.toJson = .ok components := by
  refine (ofFields_eq_ok_iff ?_).mpr ?_
  · exact (KeysAmong.fieldOf ..).nodup (by decide)
  · exact optionalField_eq_ok (mapValue id) (by simp) (by simp [mapValue])
      fun _ _ => mapOf_raw_mapValue _

/-! ## Schema objects -/

/-- What is written under the key of the properties, if the key is written. -/
def Properties.written? : Properties → Option Value
  | .absent => none
  | .null => some .null
  | .fields schemas => some (mapValue id schemas)

theorem SchemaObject.propertiesField_eq (properties : Properties) :
    propertiesField properties =
      fieldOf "properties" id properties.written? := by
  cases properties <;> rfl

/-- All three forms of the properties are told apart when they are read back. -/
theorem fieldOr_properties {fields : List (String × Value)}
    {properties : Properties}
    (hlookup : fields.lookup "properties" = properties.written?) :
    fieldOr fields "properties" .absent Document.properties =
      .ok properties := by
  rw [fieldOr, hlookup]
  cases properties with
  | absent => rfl
  | null => rfl
  | fields schemas =>
      show (mapOf raw (mapValue id schemas)).map Properties.fields = _
      rw [mapOf_raw_mapValue]
      rfl

theorem SchemaObject.ofJson_toJson {schema : SchemaObject}
    (hschema : schema.Proper) :
    ofJson schema.toJson = .ok schema := by
  rw [toJson, propertiesField_eq]
  apply ofFields_of_standsIn
  · exact (((((KeysAmong.fieldOf ..).append (.fieldOf ..)).append
      (.fieldOf ..)).append
      (.fieldOf ..)).append (.fieldOf ..)).nodup (by decide)
  · constructor
    · exact optionalField_eq_ok .string (by simp [List.lookup_append]) (by simp)
        fun _ _ => rfl
    · refine optionalField_eq_ok id (by simp [List.lookup_append]) ?_
        fun _ _ => rfl
      rintro _ htype rfl
      exact hschema htype
    · exact optionalField_eq_ok .string (by simp [List.lookup_append]) (by simp)
        fun _ _ => rfl
    · refine optionalField_eq_ok .array (by simp [List.lookup_append])
        (by simp) ?_
      intro values _
      have hvalues : listOf raw (.array (values.map id)) = .ok values :=
        listOf_array fun _ _ => rfl
      simpa using hvalues
    · exact fieldOr_properties (by simp [List.lookup_append])

theorem SchemaObject.readsBack : ReadsBack ofJson toJson Proper :=
  .of_proper (fun _ hschema => (yields_type hschema).ne_null) fun _ =>
    ofJson_toJson

/-! ## Parameters and bodies -/

/-- A schema that may be missing is read back from under its key. -/
theorem optionalField_schema {fields : List (String × Value)}
    {part : Option SchemaObject}
    (hlookup : fields.lookup "schema" = part.map SchemaObject.toJson)
    (hproper : ∀ schema, part = some schema → schema.Proper) :
    optionalField fields "schema" SchemaObject.ofJson = .ok part :=
  optionalField_eq_ok _ hlookup (by simp [SchemaObject.toJson])
    fun schema hschema => SchemaObject.ofJson_toJson (hproper schema hschema)

theorem proper_of_yields_optional {part : Option SchemaObject}
    (hpart : Yields (optional SchemaObject.ofJson) part) :
    ∀ schema, part = some schema → schema.Proper :=
  fun _ hschema => SchemaObject.readsBack.proper (hpart.of_optional hschema)

theorem ParameterObject.ofJson_toJson {parameter : ParameterObject}
    (hparameter : parameter.Proper) :
    ofJson parameter.toJson = .ok parameter := by
  apply ofFields_of_standsIn
  · exact (((KeysAmong.field ..).append (.fieldOf ..)).append
      (.fieldOf ..)).nodup (by decide)
  · constructor
    · exact required_eq_ok .string (by simp [List.lookup_append]) rfl
    · exact optionalField_eq_ok .string (by simp [List.lookup_append]) (by simp)
        fun _ _ => rfl
    · exact optionalField_schema (by simp [List.lookup_append]) hparameter

theorem ParameterObject.readsBack : ReadsBack ofJson toJson Proper :=
  .of_proper
    (fun _ hparameter => proper_of_yields_optional (yields_schema hparameter))
    fun _ => ofJson_toJson

theorem ParameterObject.referencePath?_toJson (parameter : ParameterObject) :
    referencePath? parameter.toJson = none := by
  simp [referencePath?, toJson, List.lookup_append]

theorem MediaType.ofJson_toJson {media : MediaType} (hmedia : media.Proper) :
    ofJson media.toJson = .ok media := by
  apply ofFields_of_schema
  · exact (KeysAmong.fieldOf ..).nodup (by decide)
  · exact optionalField_schema (by simp) hmedia

theorem MediaType.readsBack : ReadsBack ofJson toJson Proper :=
  .of_proper (fun _ hmedia => proper_of_yields_optional (yields_schema hmedia))
    fun _ => ofJson_toJson

theorem RequestBody.ofJson_toJson {body : RequestBody} (hbody : body.Proper) :
    ofJson body.toJson = .ok body := by
  apply ofFields_of_content
  · exact (KeysAmong.field ..).nodup (by decide)
  · have hcontent :
        mapOf MediaType.ofJson (mapValue MediaType.toJson body.content) =
          .ok body.content :=
      mapOf_mapValue fun entry hentry =>
        MediaType.ofJson_toJson (hbody entry hentry)
    simpa [fieldOr] using hcontent

theorem RequestBody.readsBack : ReadsBack ofJson toJson Proper :=
  .of_proper (fun _ hbody _ hentry =>
    MediaType.readsBack.proper ((yields_content hbody).of_mapOf hentry))
    fun _ => ofJson_toJson

theorem RequestBody.referencePath?_toJson (body : RequestBody) :
    referencePath? body.toJson = none := by
  simp [referencePath?, toJson]

theorem readsBack_parameterOrRef :
    ReadsBack parameterOrRef (RefOr.toJson ParameterObject.toJson)
      (RefOr.ForInline ParameterObject.Proper) :=
  ParameterObject.readsBack.refOr _ ParameterObject.referencePath?_toJson

theorem readsBack_requestBodyOrRef :
    ReadsBack requestBodyOrRef (RefOr.toJson RequestBody.toJson)
      (RefOr.ForInline RequestBody.Proper) :=
  RequestBody.readsBack.refOr _ RequestBody.referencePath?_toJson

/-! ## Operation objects and documents -/

theorem OperationObject.ofJson_toJson {operation : OperationObject}
    (hoperation : operation.Proper) :
    ofJson operation.toJson = .ok operation := by
  apply ofFields_of_standsIn
  · exact ((((KeysAmong.fieldOf ..).append (.fieldOf ..)).append
      (.fieldOf ..)).append (.fieldOf ..)).nodup (by decide)
  · constructor
    · exact optionalField_eq_ok .string (by simp [List.lookup_append]) (by simp)
        fun _ _ => rfl
    · refine optionalField_eq_ok parametersValue (by simp [List.lookup_append])
        (by simp [parametersValue])
        fun parameters hparameters => listOf_array ?_
      exact fun parameter hmem =>
        readsBack_parameterOrRef.written
          (hoperation.parameters parameters hparameters parameter hmem)
    · refine optionalField_eq_ok (RefOr.toJson RequestBody.toJson)
        (by simp [List.lookup_append]) ?_ fun body hbody =>
          readsBack_requestBodyOrRef.written (hoperation.requestBody body hbody)
      intro body _
      cases body <;> simp [RefOr.toJson, RequestBody.toJson]
    · exact optionalField_eq_ok .bool (by simp [List.lookup_append]) (by simp)
        fun _ _ => rfl

theorem OperationObject.proper_of_yields {operation : OperationObject}
    (hoperation : Yields ofJson operation) : operation.Proper := by
  obtain ⟨hparameters, hbody⟩ := yields_parts hoperation
  constructor
  · intro parameters hsome parameter hmem
    exact readsBack_parameterOrRef.proper
      ((hparameters.of_optional hsome).of_listOf hmem)
  · intro body hsome
    exact readsBack_requestBodyOrRef.proper (hbody.of_optional hsome)

theorem OperationObject.readsBack : ReadsBack ofJson toJson Proper :=
  .of_proper (fun _ => proper_of_yields) fun _ => ofJson_toJson

theorem ApiDocument.ofFields_written (document : ApiDocument) :
    ∃ fields,
      document.toJson = .object fields ∧ ofFields fields = .ok document := by
  refine ⟨_, rfl, (ofFields_eq_ok_iff ?_).mpr ⟨?_, ?_, ?_, ?_, ?_⟩⟩
  · exact (((((KeysAmong.fieldOf ..).append (.fieldOf ..)).append
      (.field ..)).append (.field ..)).append (.fieldOf ..)).nodup (by decide)
  · exact optionalField_eq_ok .string (by simp [List.lookup_append]) (by simp)
      fun _ _ => rfl
  · exact optionalField_eq_ok .string (by simp [List.lookup_append]) (by simp)
      fun _ _ => rfl
  · exact required_eq_ok Info.toJson (by simp [List.lookup_append])
      document.info.ofJson_toJson
  · exact required_eq_ok (mapValue PathItem.toJson)
      (by simp [List.lookup_append])
      (mapOf_mapValue fun entry _ => entry.2.ofJson_toJson)
  · exact optionalField_eq_ok Components.toJson (by simp [List.lookup_append])
      (by simp [Components.toJson]) fun components _ => components.ofJson_toJson

/-- A written document has all keys that are looked for, so every document is
read back. -/
theorem ApiDocument.ofJson_toJson (document : ApiDocument) :
    ofJson document.toJson = .ok document := by
  obtain ⟨fields, hwritten, hread⟩ := document.ofFields_written
  refine ofJson_eq_ok_iff.mpr ⟨fields, hwritten, ?_, hread⟩
  rw [hwritten, firstMissing?_eq_none_iff]
  cases hwritten
  refine ⟨⟨_, by simp [List.lookup_append]; rfl, ?_, ?_⟩, ?_⟩
  all_goals simp [List.lookup_append]

/-! ## All nodes -/

/-- Every kind of node is read back from its written form, whichever value the
node was read from.  Of schemas this excludes only those whose type is null, and
no value is read as one.  A document passes all tests of its keys again. -/
theorem nodes_are_read_back :
    ReadsBack Info.ofJson Info.toJson (fun _ => True) ∧
      ReadsBack Components.ofJson Components.toJson (fun _ => True) ∧
      ReadsBack PathItem.ofJson PathItem.toJson (fun _ => True) ∧
      ReadsBack SchemaObject.ofJson SchemaObject.toJson SchemaObject.Proper ∧
      ReadsBack MediaType.ofJson MediaType.toJson MediaType.Proper ∧
      ReadsBack ParameterObject.ofJson ParameterObject.toJson
        ParameterObject.Proper ∧
      ReadsBack parameterOrRef (RefOr.toJson ParameterObject.toJson)
        (RefOr.ForInline ParameterObject.Proper) ∧
      ReadsBack RequestBody.ofJson RequestBody.toJson RequestBody.Proper ∧
      ReadsBack requestBodyOrRef (RefOr.toJson RequestBody.toJson)
        (RefOr.ForInline RequestBody.Proper) ∧
      ReadsBack OperationObject.ofJson OperationObject.toJson
        OperationObject.Proper ∧
      ∀ document : ApiDocument,
        ApiDocument.ofJson document.toJson = .ok document :=
  ⟨.of_written Info.ofJson_toJson, .of_written Components.ofJson_toJson,
    .of_written PathItem.ofJson_toJson, SchemaObject.readsBack,
    MediaType.readsBack, ParameterObject.readsBack, readsBack_parameterOrRef,
    RequestBody.readsBack, readsBack_requestBodyOrRef,
    OperationObject.readsBack, ApiDocument.ofJson_toJson⟩

/-- An operation in the form of an array, with a reference, a parameter in the
form of an array, a key that nothing reads, and properties that are null. -/
def arrayOperation : Value :=
  .array [.null, .array [.object [("name", .string "limit"),
    ("$ref", .string "#/components/parameters/Limit")],
    .array [.string "id", .string "path", .array [.null, .null, .null, .null]]],
    .object
      [("content", .object
        [("text/plain", .object []), ("application/json", .object
          [("schema",
            .object [("format", .string "int32"), ("properties", .null)])])])],
    .bool false]

def writtenOperation : Value :=
  .object [("parameters",
    .array [.object [("$ref", .string "#/components/parameters/Limit")],
      .object [("name", .string "id"), ("in", .string "path"),
        ("schema", .object [])]]), ("requestBody", .object
          [("content", .object
            [("text/plain", .object []), ("application/json", .object
              [("schema", .object [("properties", .null)])])])]),
    ("deprecated", .bool false)]

theorem nodes_are_read_back_from_arrays :
    ∃ operation, OperationObject.ofJson arrayOperation = .ok operation ∧
      operation.toJson = writtenOperation ∧
        OperationObject.ofJson writtenOperation = .ok operation := by
  obtain ⟨-, -, -, -, -, -, -, -, -, hoperations, -⟩ := nodes_are_read_back
  have hread :
      ∃ operation, OperationObject.ofJson arrayOperation = .ok operation ∧
        operation.toJson = writtenOperation := ⟨_, rfl, rfl⟩
  obtain ⟨operation, hoperation, hwritten⟩ := hread
  refine ⟨operation, hoperation, hwritten, ?_⟩
  rw [← hwritten]
  exact hoperations.again arrayOperation operation hoperation

end Document
end ApiClientGen

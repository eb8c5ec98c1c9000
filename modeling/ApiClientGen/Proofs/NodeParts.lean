import ApiClientGen.Document.OperationObject
import ApiClientGen.Proofs.ShapeAcceptance

/-!
# The parts of a typed node

A record reads each of its parts with the shape of that part, from under a key
of an object or from its place in an array.  Here the tests and the order of
reading are taken off: what is left is which key holds which part, and that
every part of a node is something its own shape gives.
-/

namespace ApiClientGen

namespace OrderedMap

/-- Putting entries in one after the other adds no entry of its own. -/
theorem mem_of_mem_toList_ofList {α : Type} {entries : List (String × α)}
    {entry : String × α} (hentry : entry ∈ (ofList entries).toList) :
    entry ∈ entries := by
  have hfold : ∀ (rest : List (String × α)) (m : OrderedMap α),
      entry ∈ (rest.foldl (fun m entry => m.insert entry.1 entry.2) m).entries →
        entry ∈ m.entries ∨ entry ∈ rest := by
    intro rest
    induction rest with
    | nil => exact fun m hmem => Or.inl hmem
    | cons first rest ih =>
        intro m hmem
        rcases ih (m.insert first.1 first.2) hmem with hput | hrest
        · rcases mem_putEntry hput with rfl | hold
          · exact Or.inr List.mem_cons_self
          · exact Or.inl hold
        · exact Or.inr (List.mem_cons_of_mem first hrest)
  exact (hfold entries empty hentry).resolve_left List.not_mem_nil

end OrderedMap

namespace Document

open Json (Value)

/-! ## What a shape gives -/

/-- The shape gives the node for some value. -/
def Yields {α : Type} (shape : Shape α) (node : α) : Prop :=
  ∃ value, shape value = .ok node

/-- The node under a key, or a default if the key is not there. -/
def fieldOr {α : Type} (fields : List (String × Value)) (key : String)
    (fallback : α) (shape : Shape α) : Except ShapeError α :=
  match fields.lookup key with
  | some value => shape value
  | none => .ok fallback

section Parts

variable {α : Type} {shape : Shape α} {fields : List (String × Value)}
    {items : List Value} {key name : String} {index size : ℕ}
    {node fallback : α}

theorem check_of_fieldOr (hnode : fieldOr fields key fallback shape = .ok node)
    {value : Value} (hvalue : fields.lookup key = some value) :
    check shape value = .ok () := by
  rw [fieldOr, hvalue] at hnode
  rw [check_eq_ok_iff]
  exact ⟨node, hnode⟩

theorem fieldOr_cases (hnode : fieldOr fields key fallback shape = .ok node) :
    (fields.lookup key = none ∧ node = fallback) ∨
      ∃ value, fields.lookup key = some value ∧ shape value = .ok node := by
  unfold fieldOr at hnode
  cases hvalue : fields.lookup key with
  | none =>
      rw [hvalue] at hnode
      exact Or.inl ⟨rfl, (Except.ok.inj hnode).symm⟩
  | some value =>
      rw [hvalue] at hnode
      exact Or.inr ⟨value, rfl, hnode⟩

theorem yields_of_itemAt
    (hnode : itemAt items index name size shape = .ok node) :
    Yields shape node := by
  unfold itemAt at hnode
  split at hnode
  · exact ⟨_, hnode⟩
  · cases hnode

theorem yields_of_itemOr (hfallback : Yields shape fallback)
    (hnode : itemOr items index fallback shape = .ok node) :
    Yields shape node := by
  unfold itemOr at hnode
  split at hnode
  · exact ⟨_, hnode⟩
  · cases hnode
    exact hfallback

theorem yields_of_fieldOr (hfallback : Yields shape fallback)
    (hnode : fieldOr fields key fallback shape = .ok node) :
    Yields shape node := by
  rcases fieldOr_cases hnode with ⟨-, rfl⟩ | ⟨value, -, hvalue⟩
  · exact hfallback
  · exact ⟨value, hvalue⟩

theorem yields_optional_none : Yields (optional shape) none :=
  ⟨.null, rfl⟩

theorem yields_optional_of_optionalField {part : Option α}
    (hpart : optionalField fields key shape = .ok part) :
    Yields (optional shape) part := by
  unfold optionalField at hpart
  split at hpart
  · exact ⟨_, hpart⟩
  · cases hpart
    exact yields_optional_none

theorem Yields.of_optional {part : Option α}
    (hpart : Yields (optional shape) part) (hsome : part = some node) :
    Yields shape node := by
  obtain ⟨value, hvalue⟩ := hpart
  rcases optional_cases hvalue with ⟨-, rfl⟩ | ⟨inner, hinner, rfl⟩
  · cases hsome
  · cases hsome
    exact ⟨value, hinner⟩

/-- A raw part that may be missing is never null, since null means that it is
missing. -/
theorem Yields.ne_null {part : Option Value}
    (hpart : Yields (optional raw) part) :
    part ≠ some .null := by
  obtain ⟨value, hvalue⟩ := hpart
  rintro rfl
  cases value <;> cases hvalue

theorem Yields.of_listOf {nodes : List α} (hnodes : Yields (listOf shape) nodes)
    (hmem : node ∈ nodes) :
    Yields shape node := by
  obtain ⟨value, hvalue⟩ := hnodes
  cases value with
  | array items =>
      replace hvalue : readAll shape items = .ok nodes := hvalue
      induction items generalizing nodes with
      | nil =>
          cases hvalue
          cases hmem
      | cons item rest ih =>
          simp only [readAll, bind_eq_ok_iff] at hvalue
          obtain ⟨first, hfirst, others, hothers, hcons⟩ := hvalue
          cases hcons
          rcases List.mem_cons.mp hmem with rfl | hlater
          · exact ⟨item, hfirst⟩
          · exact ih hlater hothers
  | _ => cases hvalue

theorem Yields.of_mapOf {m : OrderedMap α} (hm : Yields (mapOf shape) m)
    {entry : String × α} (hentry : entry ∈ m.toList) :
    Yields shape entry.2 := by
  obtain ⟨value, hvalue⟩ := hm
  cases value with
  | object fields =>
      obtain ⟨nodes, hnodes, rfl⟩ := map_eq_ok_iff.mp hvalue
      obtain ⟨field, -, hnode⟩ :=
        exists_related_of_mem (readEntries_eq_ok_iff.mp hnodes)
          (OrderedMap.mem_of_mem_toList_ofList hentry)
      exact ⟨field.2, hnode.2⟩
  | _ => cases hvalue

theorem Yields.of_refOr
    (hnode : Yields (RefOr.ofJson name shape) (.inline node)) :
    Yields shape node := by
  obtain ⟨value, hvalue⟩ := hnode
  unfold RefOr.ofJson at hvalue
  split at hvalue
  · cases hvalue
  · split at hvalue
    · rename_i hinline
      cases hvalue
      exact ⟨value, hinline⟩
    · cases hvalue

end Parts

/-! ## Schema objects -/

namespace SchemaObject

/-- The parts of a schema object stand under their keys. -/
structure StandsIn (fields : List (String × Value)) (schema : SchemaObject) :
    Prop where
  reference : optionalField fields "$ref" string = .ok schema.reference
  type : optionalField fields "type" raw = .ok schema.type
  description : optionalField fields "description" string =
    .ok schema.description
  enumeration : optionalField fields "enum" (listOf raw) =
    .ok schema.enumeration
  properties : fieldOr fields "properties" .absent Document.properties =
    .ok schema.properties

theorem ofFields_eq (fields : List (String × Value)) :
    ofFields fields = (do
      checkFields checks fields
      let reference ← optionalField fields "$ref" string
      let type ← optionalField fields "type" raw
      let description ← optionalField fields "description" string
      let enumeration ← optionalField fields "enum" (listOf raw)
      let properties ← fieldOr fields "properties" .absent Document.properties
      .ok { reference, type, description, enumeration, properties }) := by
  unfold ofFields fieldOr
  cases fields.lookup "properties" <;> rfl

theorem standsIn_of_ofFields {fields : List (String × Value)}
    {schema : SchemaObject} (hread : ofFields fields = .ok schema) :
    StandsIn fields schema := by
  simp only [ofFields_eq, bind_eq_ok_iff] at hread
  obtain ⟨-, -, reference, hreference, type, htype, description, hdescription,
    enumeration, henumeration, properties, hproperties, hnode⟩ := hread
  cases hnode
  exact ⟨hreference, htype, hdescription, henumeration, hproperties⟩

theorem ofFields_of_standsIn {fields : List (String × Value)}
    {schema : SchemaObject} (hkeys : (entryKeys fields).Nodup)
    (hparts : StandsIn fields schema) :
    ofFields fields = .ok schema := by
  obtain ⟨hreference, htype, hdescription, henumeration, hproperties⟩ := hparts
  have hcheck : checkFields checks fields = .ok () := by
    apply checkFields_eq_ok hkeys
    simp only [checks, List.forall_mem_cons, List.not_mem_nil, false_implies,
      implies_true, and_true]
    exact ⟨fun _ => check_of_optionalField hreference,
      fun _ => check_of_optionalField htype,
      fun _ => check_of_optionalField hdescription,
      fun _ => check_of_optionalField henumeration,
      fun _ => check_of_fieldOr hproperties⟩
  simp [ofFields_eq, hcheck, hreference, htype, hdescription, henumeration,
    hproperties, bind, Except.bind]

theorem yields_type {schema : SchemaObject} (hschema : Yields ofJson schema) :
    Yields (optional raw) schema.type := by
  obtain ⟨value, hvalue⟩ := hschema
  cases value with
  | object fields =>
      exact yields_optional_of_optionalField (standsIn_of_ofFields hvalue).type
  | array items =>
      replace hvalue : ofItems items = .ok schema := hvalue
      simp only [ofItems, bind_eq_ok_iff] at hvalue
      obtain ⟨reference, -, type, htype, description, -, enumeration, -,
        properties, -, -, -, hnode⟩ := hvalue
      cases hnode
      exact yields_of_itemAt htype
  | _ => cases hvalue

end SchemaObject

/-! ## Parameters and bodies -/

namespace ParameterObject

structure StandsIn (fields : List (String × Value))
    (parameter : ParameterObject) : Prop where
  name : required fields "name" string = .ok parameter.name
  location : optionalField fields "in" string = .ok parameter.location
  schema : optionalField fields "schema" SchemaObject.ofJson =
    .ok parameter.schema

theorem standsIn_of_ofFields {fields : List (String × Value)}
    {parameter : ParameterObject} (hread : ofFields fields = .ok parameter) :
    StandsIn fields parameter := by
  simp only [ofFields, bind_eq_ok_iff] at hread
  obtain ⟨-, -, name, hname, location, hlocation, schema, hschema, hnode⟩ :=
    hread
  cases hnode
  exact ⟨hname, hlocation, hschema⟩

theorem ofFields_of_standsIn {fields : List (String × Value)}
    {parameter : ParameterObject} (hkeys : (entryKeys fields).Nodup)
    (hparts : StandsIn fields parameter) :
    ofFields fields = .ok parameter := by
  obtain ⟨hname, hlocation, hschema⟩ := hparts
  have hcheck : checkFields checks fields = .ok () := by
    apply checkFields_eq_ok hkeys
    simp only [checks, List.forall_mem_cons, List.not_mem_nil, false_implies,
      implies_true, and_true]
    exact ⟨fun _ => check_of_required hname,
      fun _ => check_of_optionalField hlocation,
      fun _ => check_of_optionalField hschema⟩
  simp [ofFields, hcheck, hname, hlocation, hschema, bind, Except.bind]

theorem yields_schema {parameter : ParameterObject}
    (hparameter : Yields ofJson parameter) :
    Yields (optional SchemaObject.ofJson) parameter.schema := by
  obtain ⟨value, hvalue⟩ := hparameter
  cases value with
  | object fields =>
      exact yields_optional_of_optionalField
        (standsIn_of_ofFields hvalue).schema
  | array items =>
      replace hvalue : ofItems items = .ok parameter := hvalue
      simp only [ofItems, bind_eq_ok_iff] at hvalue
      obtain ⟨name, -, location, -, schema, hschema, -, -, hnode⟩ := hvalue
      cases hnode
      exact yields_of_itemAt hschema
  | _ => cases hvalue

end ParameterObject

namespace MediaType

theorem ofFields_of_schema {fields : List (String × Value)} {media : MediaType}
    (hkeys : (entryKeys fields).Nodup)
    (hschema :
      optionalField fields "schema" SchemaObject.ofJson = .ok media.schema) :
    ofFields fields = .ok media := by
  have hcheck : checkFields checks fields = .ok () := by
    apply checkFields_eq_ok hkeys
    simp only [checks, List.forall_mem_cons, List.not_mem_nil, false_implies,
      implies_true, and_true]
    exact fun _ => check_of_optionalField hschema
  simp [ofFields, hcheck, hschema, bind, Except.bind]

theorem yields_schema {media : MediaType} (hmedia : Yields ofJson media) :
    Yields (optional SchemaObject.ofJson) media.schema := by
  obtain ⟨value, hvalue⟩ := hmedia
  cases value with
  | object fields =>
      replace hvalue : ofFields fields = .ok media := hvalue
      simp only [ofFields, bind_eq_ok_iff] at hvalue
      obtain ⟨-, -, schema, hschema, hnode⟩ := hvalue
      cases hnode
      exact yields_optional_of_optionalField hschema
  | array items =>
      replace hvalue : ofItems items = .ok media := hvalue
      simp only [ofItems, bind_eq_ok_iff] at hvalue
      obtain ⟨schema, hschema, -, -, hnode⟩ := hvalue
      cases hnode
      exact yields_of_itemAt hschema
  | _ => cases hvalue

end MediaType

namespace RequestBody

theorem ofFields_eq (fields : List (String × Value)) :
    ofFields fields = (do
      checkFields checks fields
      let content ← fieldOr fields "content" .empty (mapOf MediaType.ofJson)
      .ok { content }) := by
  unfold ofFields fieldOr
  cases fields.lookup "content" <;> rfl

theorem ofFields_of_content {fields : List (String × Value)}
    {body : RequestBody} (hkeys : (entryKeys fields).Nodup)
    (hcontent : fieldOr fields "content" .empty (mapOf MediaType.ofJson) =
      .ok body.content) :
    ofFields fields = .ok body := by
  have hcheck : checkFields checks fields = .ok () := by
    apply checkFields_eq_ok hkeys
    simp only [checks, List.forall_mem_cons, List.not_mem_nil, false_implies,
      implies_true, and_true]
    exact fun _ => check_of_fieldOr hcontent
  simp [ofFields_eq, hcheck, hcontent, bind, Except.bind]

theorem yields_content {body : RequestBody} (hbody : Yields ofJson body) :
    Yields (mapOf MediaType.ofJson) body.content := by
  have hempty : Yields (mapOf MediaType.ofJson) .empty := ⟨.object [], rfl⟩
  obtain ⟨value, hvalue⟩ := hbody
  cases value with
  | object fields =>
      replace hvalue : ofFields fields = .ok body := hvalue
      simp only [ofFields_eq, bind_eq_ok_iff] at hvalue
      obtain ⟨-, -, content, hcontent, hnode⟩ := hvalue
      cases hnode
      exact yields_of_fieldOr hempty hcontent
  | array items =>
      replace hvalue : ofItems items = .ok body := hvalue
      simp only [ofItems, bind_eq_ok_iff] at hvalue
      obtain ⟨content, hcontent, -, -, hnode⟩ := hvalue
      cases hnode
      exact yields_of_itemOr hempty hcontent
  | _ => cases hvalue

end RequestBody

/-! ## Operation objects -/

namespace OperationObject

structure StandsIn (fields : List (String × Value))
    (operation : OperationObject) : Prop where
  summary : optionalField fields "summary" string = .ok operation.summary
  parameters : optionalField fields "parameters" (listOf parameterOrRef) =
    .ok operation.parameters
  requestBody : optionalField fields "requestBody" requestBodyOrRef =
    .ok operation.requestBody
  deprecated : optionalField fields "deprecated" boolean =
    .ok operation.deprecated

theorem standsIn_of_ofFields {fields : List (String × Value)}
    {operation : OperationObject} (hread : ofFields fields = .ok operation) :
    StandsIn fields operation := by
  simp only [ofFields, bind_eq_ok_iff] at hread
  obtain ⟨-, -, summary, hsummary, parameters, hparameters, requestBody,
    hrequestBody, deprecated, hdeprecated, hnode⟩ := hread
  cases hnode
  exact ⟨hsummary, hparameters, hrequestBody, hdeprecated⟩

theorem ofFields_of_standsIn {fields : List (String × Value)}
    {operation : OperationObject} (hkeys : (entryKeys fields).Nodup)
    (hparts : StandsIn fields operation) :
    ofFields fields = .ok operation := by
  obtain ⟨hsummary, hparameters, hrequestBody, hdeprecated⟩ := hparts
  have hcheck : checkFields checks fields = .ok () := by
    apply checkFields_eq_ok hkeys
    simp only [checks, List.forall_mem_cons, List.not_mem_nil, false_implies,
      implies_true, and_true]
    exact ⟨fun _ => check_of_optionalField hsummary,
      fun _ => check_of_optionalField hparameters,
      fun _ => check_of_optionalField hrequestBody,
      fun _ => check_of_optionalField hdeprecated⟩
  simp [ofFields, hcheck, hsummary, hparameters, hrequestBody, hdeprecated,
    bind, Except.bind]

theorem yields_parts {operation : OperationObject}
    (hoperation : Yields ofJson operation) :
    Yields (optional (listOf parameterOrRef)) operation.parameters ∧
      Yields (optional requestBodyOrRef) operation.requestBody := by
  obtain ⟨value, hvalue⟩ := hoperation
  cases value with
  | object fields =>
      have hparts := standsIn_of_ofFields hvalue
      exact ⟨yields_optional_of_optionalField hparts.parameters,
        yields_optional_of_optionalField hparts.requestBody⟩
  | array items =>
      replace hvalue : ofItems items = .ok operation := hvalue
      simp only [ofItems, bind_eq_ok_iff] at hvalue
      obtain ⟨summary, -, parameters, hparameters, requestBody, hrequestBody,
        deprecated, -, -, -, hnode⟩ := hvalue
      cases hnode
      exact ⟨yields_of_itemOr yields_optional_none hparameters,
        yields_of_itemAt hrequestBody⟩
  | _ => cases hvalue

end OperationObject
end Document
end ApiClientGen

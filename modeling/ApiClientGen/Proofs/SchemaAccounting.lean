import ApiClientGen.Proofs.NodeParts
import ApiClientGen.Proofs.PathWarnings
import ApiClientGen.Proofs.References

/-!
# What becomes of a component schema

Component schemas are read in a first pass and made into models in a second one,
and either pass may drop an entry with a warning.  Here both passes are joined
into one step for each entry.  The step has two outcomes, which are told apart
by the raw value of the entry alone: the entry is skipped with one warning and
nothing else, or it becomes a model that is made of the parts that stand in the
raw value.
-/

namespace ApiClientGen

namespace Document

open Json (Value)

/-- What stands under a key, unless it is null. -/
def given? (fields : List (String × Value)) (key : String) : Option Value :=
  match fields.lookup key with
  | some .null => none
  | found => found

theorem optionalField_eq {α : Type} (fields : List (String × Value))
    (key : String) (shape : Shape α) :
    optionalField fields key shape =
      match given? fields key with
      | none => .ok none
      | some value => (shape value).map some := by
  unfold optionalField given?
  cases fields.lookup key with
  | none => rfl
  | some value => cases value <;> rfl

theorem readAll_raw (items : List Value) : readAll raw items = .ok items := by
  induction items with
  | nil => rfl
  | cons item rest ih =>
      simp only [readAll, ih]
      rfl

theorem readEntries_raw (fields : List (String × Value)) :
    readEntries raw fields = .ok fields := by
  rw [readEntries_eq_ok_iff, List.forall₂_same]
  exact fun _ _ => ⟨rfl, rfl⟩

def textAt? (fields : List (String × Value)) (key : String) : Option String :=
  match fields.lookup key with
  | some (.string text) => some text
  | _ => none

/-- The entries of the object under `properties`, each key once. -/
def propertyEntries (fields : List (String × Value)) : List (String × Value) :=
  match fields.lookup "properties" with
  | some (.object properties) => (OrderedMap.ofList properties).toList
  | _ => []

theorem textAt?_of_optionalField {fields : List (String × Value)} {key : String}
    {text : Option String}
    (htext : optionalField fields key string = .ok text) :
    textAt? fields key = text := by
  unfold optionalField at htext
  unfold textAt?
  cases hvalue : fields.lookup key with
  | none => simpa [hvalue] using htext
  | some value =>
      rw [hvalue] at htext
      cases value <;> cases htext <;> rfl

namespace SchemaObject.StandsIn

variable {fields : List (String × Value)} {schema : SchemaObject}

/-- The members of a schema are the items of the array under `enum`. -/
theorem given?_enum (hparts : StandsIn fields schema) :
    given? fields "enum" = schema.enumeration.map Value.array := by
  have henum := hparts.enumeration
  rw [optionalField_eq] at henum
  cases hgiven : given? fields "enum" with
  | none =>
      rw [hgiven] at henum
      rw [← Except.ok.inj henum, Option.map_none]
  | some value =>
      rw [hgiven] at henum
      obtain ⟨values, hvalues, hsome⟩ := map_eq_ok_iff.mp henum
      cases value with
      | array items =>
          have hitems : items = values :=
            Except.ok.inj ((readAll_raw items).symm.trans hvalues)
          rw [← hsome, hitems, Option.map_some]
      | _ => cases hvalues

theorem isPresent_properties (hparts : StandsIn fields schema) :
    schema.properties.isPresent = (fields.lookup "properties").isSome := by
  rcases fieldOr_cases hparts.properties with
    ⟨hnone, habsent⟩ | ⟨value, hvalue, hproperties⟩
  · rw [hnone, habsent]
    rfl
  · rw [hvalue, Option.isSome_some]
    unfold Document.properties at hproperties
    split at hproperties
    · rw [← Except.ok.inj hproperties]
      rfl
    · obtain ⟨m, -, hm⟩ := map_eq_ok_iff.mp hproperties
      rw [← hm]
      rfl

theorem toList_properties (hparts : StandsIn fields schema) :
    schema.properties.toList = propertyEntries fields := by
  rcases fieldOr_cases hparts.properties with
    ⟨hnone, habsent⟩ | ⟨value, hvalue, hproperties⟩
  · simp only [propertyEntries, hnone, habsent, Properties.toList]
  · rw [propertyEntries, hvalue]
    cases value with
    | null =>
        rw [← Except.ok.inj hproperties]
        rfl
    | object entries =>
        obtain ⟨m, hm, hfields⟩ := map_eq_ok_iff.mp hproperties
        rw [mapOf, readEntries_raw] at hm
        rw [← hfields, ← Except.ok.inj hm]
        rfl
    | _ => cases hproperties

end SchemaObject.StandsIn
end Document

namespace Api

open Document (ApiDocument SchemaObject given? propertyEntries textAt?)
open Json (Value)

/-! ## Entries and their models -/

/-- Whether a component schema becomes a model: its name is an identifier, its
value is an object that reads as a schema, and the object has members that are
not null or the key `properties`. -/
def becomesModel : String × Value → Bool
  | (name, .object fields) =>
    Naming.isIdentifier name && (SchemaObject.ofJson (.object fields)).isOk &&
      ((given? fields "enum").isSome || (fields.lookup "properties").isSome)
  | _ => false

/-- A model is made of what stands in a component schema: an enumeration of its
members, whatever else there is, and without members a record of its
properties. -/
inductive Describes : String × Value → Model → Prop where
  | enumeration {name : String} {fields : List (String × Value)}
      {values : List Value}
      (henum : given? fields "enum" = some (.array values)) :
      Describes (name, .object fields)
        (.enumeration ⟨name, textAt? fields "description",
          values.map memberName⟩)
  | record {name : String} {fields : List (String × Value)}
      {recordFields : List Field} (henum : given? fields "enum" = none)
      (hproperties : (fields.lookup "properties").isSome)
      (hfields :
        recordFields.map (fun field => (field.originalName, field.name)) =
          (propertyEntries fields).map fun entry =>
            (entry.1, Naming.capitalizeFirst entry.1)) :
      Describes (name, .object fields)
        (.record ⟨name, textAt? fields "description", recordFields⟩)

/-- The members of an enumeration; a record has none. -/
def Model.members : Model → List String
  | .enumeration model => model.members
  | .record _ => []

/-- The properties of a component schema without members. -/
def recordProperties : String × Value → List (String × Value)
  | (_, .object fields) =>
    if (given? fields "enum").isSome then [] else propertyEntries fields
  | _ => []

/-- Whether a warning says that a component schema has no model. -/
def Cause.skipsSchema : Cause → Bool
  | .schemaNameNotIdentifier => true
  | .schemaNotObject => true
  | .schemaUnreadable _ => true
  | .schemaWithoutModel => true
  | _ => false

/-- Whether a warning is about a part of a model. -/
def Cause.degradesModel : Cause → Bool
  | .memberNotIdentifier _ => true
  | .propertyNotSchema => true
  | _ => false

theorem Cause.skipsSchema_of_pathFault? {cause : Cause}
    (hfault : cause.pathFault?.isSome = true) :
    cause.skipsSchema = false := by
  cases cause <;> first | rfl | cases hfault

theorem Cause.skipsSchema_of_degradesModel {cause : Cause}
    (hdegrades : cause.degradesModel = true) :
    cause.skipsSchema = false := by
  cases cause <;> first | rfl | cases hdegrades

/-- A warning about a component schema is none about a fault under a path. -/
theorem Cause.pathFault?_of_schema {cause : Cause}
    (hschema : cause.skipsSchema = true ∨ cause.degradesModel = true) :
    cause.pathFault? = none := by
  cases cause <;>
    first | rfl | (rcases hschema with hskips | hdegrades <;> contradiction)

/-! ## One step for each entry -/

def entryModel? (models : List String) (entry : String × Value) :
    Option Model :=
  (readSchema entry).toOption.bind (modelOf? models)

def entryWarnings (models : List String) (entry : String × Value) :
    List Warning :=
  match readSchema entry with
  | .ok schema => modelWarnings models schema
  | .error warning => [warning]

theorem models_ofDocument (document : ApiDocument) :
    (ofDocument document).models =
      document.schemas.filterMap
        (entryModel? (modelNames (readableSchemas document.schemas))) :=
  List.filterMap_filterMap

theorem exists_schema_of_entryModel? {models : List String}
    {entry : String × Value} {model : Model}
    (hmodel : entryModel? models entry = some model) :
    ∃ schema, readSchema entry = .ok (entry.1, schema) ∧
      modelOf? models (entry.1, schema) = some model := by
  cases hread : readSchema entry with
  | error warning => simp [entryModel?, hread, Except.toOption] at hmodel
  | ok read =>
      obtain ⟨name, schema⟩ := read
      obtain rfl : name = entry.1 := (readSchema_eq_ok_iff.mp hread).2.2.1
      exact ⟨schema, rfl,
        by simpa [entryModel?, hread, Except.toOption] using hmodel⟩

/-- The warnings of both passes are those of the entries, in another order. -/
theorem perm_schemaWarnings (models : List String)
    (entries : List (String × Value)) :
    (unreadableSchemaWarnings entries ++
      (readableSchemas entries).flatMap (modelWarnings models)).Perm
      (entries.flatMap (entryWarnings models)) := by
  induction entries with
  | nil => exact List.Perm.refl []
  | cons entry rest ih =>
      rw [List.flatMap_cons, readableSchemas_cons, entryWarnings,
        unreadableSchemaWarnings]
      cases hread : readSchema entry with
      | ok schema =>
          rw [List.filterMap_cons_none (by rw [hread]; rfl)]
          exact (List.perm_append_comm_assoc ..).trans (ih.append_left _)
      | error warning =>
          rw [List.filterMap_cons_some (b := warning) (by rw [hread]; rfl)]
          exact (ih.cons warning)

/-- What becomes of a component schema: it is skipped with one warning, or it
becomes a model whose members and fields may have warnings. -/
inductive Outcome (models : List String) (entry : String × Value) : Prop where
  | skipped (cause : Cause) (hbecomes : becomesModel entry = false)
      (hcause : cause.skipsSchema = true)
      (hmodel : entryModel? models entry = none)
      (hwarnings :
        entryWarnings models entry = [⟨schemaLocation entry.1, cause⟩])
  | modelled (model : Model) (hbecomes : becomesModel entry = true)
      (hmodel : entryModel? models entry = some model)
      (hdescribes : Describes entry model)
      (hwarnings : ∀ warning ∈ entryWarnings models entry,
        warning.cause.degradesModel = true)
      (hlength : (entryWarnings models entry).length =
        model.members.countP (!Naming.isIdentifier ·) +
          (recordProperties entry).countP fun property =>
            !(SchemaObject.ofJson property.2).isOk)

/-- A name that is no identifier, a value that is no object and an object that
is no schema each give one warning of their own. -/
theorem outcome_of_readSchema_eq_error {models : List String}
    {entry : String × Value} {warning : Warning}
    (hread : readSchema entry = .error warning) : Outcome models entry := by
  obtain ⟨name, value⟩ := entry
  have hmodel : entryModel? models (name, value) = none := by
    rw [entryModel?, hread]
    rfl
  have hwarnings : entryWarnings models (name, value) = [warning] := by
    rw [entryWarnings, hread]
  unfold readSchema at hread
  simp only at hread
  split at hread
  · rename_i hname
    cases hread
    refine .skipped .schemaNameNotIdentifier ?_ rfl hmodel hwarnings
    cases value <;> simp_all [becomesModel]
  · split at hread
    · rename_i fields
      split at hread
      · cases hread
      · rename_i error hschema
        cases hread
        refine .skipped (.schemaUnreadable error) ?_ rfl hmodel hwarnings
        simp [becomesModel, hschema, Except.isOk, Except.toBool]
    · rename_i hobject
      cases hread
      refine .skipped .schemaNotObject ?_ rfl hmodel hwarnings
      cases value with
      | object fields => exact (hobject fields rfl).elim
      | _ => rfl

theorem isNone_propertyType? (models : List String) (value : Value) :
    (propertyType? models value).isNone =
      !(SchemaObject.ofJson value).isOk := by
  unfold propertyType?
  cases SchemaObject.ofJson value with
  | error error => rfl
  | ok schema =>
      cases hname : schema.referencedName <;>
        simp [hname, Except.isOk, Except.toBool]

theorem length_propertyWarnings (models : List String) (location : String)
    (properties : List (String × Value)) :
    (properties.filterMap (propertyWarning? models location)).length =
      properties.countP fun property =>
        !(SchemaObject.ofJson property.2).isOk := by
  rw [List.length_filterMap_eq_countP]
  congr 1
  funext property
  rw [propertyWarning?, isNone_propertyType?]
  split <;> simp [*]

section ReadSchema

variable {models : List String} {name : String} {fields : List (String × Value)}
    {schema : SchemaObject}
    (hread : readSchema (name, .object fields) = .ok (name, schema))

include hread

theorem standsIn_of_readSchema : SchemaObject.StandsIn fields schema :=
  SchemaObject.standsIn_of_ofFields (readSchema_eq_ok_iff.mp hread).2.2.2

theorem entryModel?_of_readSchema :
    entryModel? models (name, .object fields) =
      modelOf? models (name, schema) := by
  rw [entryModel?, hread]
  rfl

theorem entryWarnings_of_readSchema :
    entryWarnings models (name, .object fields) =
      modelWarnings models (name, schema) := by
  rw [entryWarnings, hread]

theorem becomesModel_of_readSchema :
    becomesModel (name, .object fields) = hasModel schema := by
  obtain ⟨hname, -, -, hschema⟩ := readSchema_eq_ok_iff.mp hread
  have hparts := standsIn_of_readSchema hread
  simp [becomesModel, hasModel, hname, hschema, Except.isOk, Except.toBool,
    hparts.given?_enum, hparts.isPresent_properties]

theorem outcome_of_enumeration {values : List Value}
    (henum : schema.enumeration = some values) :
    Outcome models (name, .object fields) := by
  have hparts := standsIn_of_readSchema hread
  have hgiven : given? fields "enum" = some (.array values) := by
    rw [hparts.given?_enum, henum, Option.map_some]
  have hwarnings : entryWarnings models (name, .object fields) =
      ((values.map memberName).filter (!Naming.isIdentifier ·)).map
        fun member =>
        ⟨schemaLocation name, .memberNotIdentifier member⟩ := by
    simp only [entryWarnings_of_readSchema hread, modelWarnings, henum]
  refine .modelled
    (.enumeration ⟨name, textAt? fields "description", values.map memberName⟩)
    ?_ ?_ (.enumeration hgiven) ?_ ?_
  · simp [becomesModel_of_readSchema hread, hasModel, henum]
  · simp [entryModel?_of_readSchema hread, modelOf?, henum,
      Document.textAt?_of_optionalField hparts.description]
  · rw [hwarnings]
    intro warning hmem
    obtain ⟨member, -, rfl⟩ := List.mem_map.mp hmem
    rfl
  · rw [hwarnings, List.length_map, ← List.countP_eq_length_filter]
    simp [Model.members, recordProperties, hgiven]

theorem outcome_of_properties (henum : schema.enumeration = none)
    (hpresent : schema.properties.isPresent = true) :
    Outcome models (name, .object fields) := by
  have hparts := standsIn_of_readSchema hread
  have hgiven : given? fields "enum" = none := by
    rw [hparts.given?_enum, henum, Option.map_none]
  have hwarnings : entryWarnings models (name, .object fields) =
      (propertyEntries fields).filterMap
        (propertyWarning? models (schemaLocation name)) := by
    simp only [entryWarnings_of_readSchema hread, modelWarnings, henum,
      hpresent, if_true, hparts.toList_properties]
  refine .modelled
    (.record ⟨name, textAt? fields "description",
      (propertyEntries fields).map (fieldOfProperty models)⟩)
    ?_ ?_ (.record hgiven ?_ ?_) ?_ ?_
  · simp [becomesModel_of_readSchema hread, hasModel, hpresent]
  · simp [entryModel?_of_readSchema hread, modelOf?, henum, hpresent,
      hparts.toList_properties,
      Document.textAt?_of_optionalField hparts.description]
  · rw [← hparts.isPresent_properties, hpresent]
  · rw [List.map_map]
    rfl
  · rw [hwarnings]
    intro warning hmem
    obtain ⟨property, -, hproperty⟩ := List.mem_filterMap.mp hmem
    unfold propertyWarning? at hproperty
    split at hproperty
    · cases hproperty
      rfl
    · cases hproperty
  · rw [hwarnings, length_propertyWarnings]
    simp [Model.members, recordProperties, hgiven]

theorem outcome_of_neither (henum : schema.enumeration = none)
    (hpresent : schema.properties.isPresent = false) :
    Outcome models (name, .object fields) := by
  refine .skipped .schemaWithoutModel ?_ rfl ?_ ?_
  · simp [becomesModel_of_readSchema hread, hasModel, henum, hpresent]
  · simp [entryModel?_of_readSchema hread, modelOf?, henum, hpresent]
  · simp [entryWarnings_of_readSchema hread, modelWarnings, henum, hpresent]

end ReadSchema

theorem outcome (models : List String) (entry : String × Value) :
    Outcome models entry := by
  cases hread : readSchema entry with
  | error warning => exact outcome_of_readSchema_eq_error hread
  | ok read =>
      obtain ⟨name, value⟩ := entry
      obtain ⟨readName, schema⟩ := read
      obtain ⟨-, ⟨fields, rfl⟩, rfl, -⟩ := readSchema_eq_ok_iff.mp hread
      cases henum : schema.enumeration with
      | some values => exact outcome_of_enumeration hread henum
      | none =>
          cases hpresent : schema.properties.isPresent with
          | true => exact outcome_of_properties hread henum hpresent
          | false => exact outcome_of_neither hread henum hpresent

/-! ## All entries of a document -/

/-- If what is written for an item never passes the test of another item, the
test counts what is written for its own item. -/
theorem countP_flatMap_of_nodup {α β κ : Type} {items : List α} {key : α → κ}
    {write : α → List β} {test : κ → β → Bool} (hkeys : (items.map key).Nodup)
    (hother : ∀ other ∈ items, ∀ k, key other ≠ k →
      (write other).countP (test k) = 0) {item : α} (hmem : item ∈ items) :
    (items.flatMap write).countP (test (key item)) =
      (write item).countP (test (key item)) := by
  obtain ⟨front, back, rfl⟩ := List.append_of_mem hmem
  have hnone :
      ∀ part : List α, (∀ other ∈ part, other ∈ front ++ item :: back) →
        (∀ other ∈ part, key other ≠ key item) →
        (part.flatMap write).countP (test (key item)) = 0 := by
    intro part hpart hne
    rw [List.countP_eq_zero]
    intro written hwritten
    obtain ⟨other, hmem, hwritten⟩ := List.mem_flatMap.mp hwritten
    exact List.countP_eq_zero.mp
      (hother other (hpart other hmem) _ (hne other hmem)) written hwritten
  rw [List.map_append, List.map_cons, List.nodup_middle, List.nodup_cons,
    List.mem_append] at hkeys
  have hfront := hnone front (by simp +contextual) fun other hother heq =>
    hkeys.1 (Or.inl (heq ▸ List.mem_map_of_mem hother))
  have hback := hnone back (by simp +contextual) fun other hother heq =>
    hkeys.1 (Or.inr (heq ▸ List.mem_map_of_mem hother))
  rw [List.flatMap_append, List.flatMap_cons, List.countP_append,
    List.countP_append, hfront, hback, Nat.zero_add, Nat.add_zero]

/-- Whether a warning says that the component schema with the given name has no
model. -/
def Warning.skips (name : String) (warning : Warning) : Bool :=
  warning.cause.skipsSchema && warning.location == schemaLocation name

theorem schemaLocation_injective : Function.Injective schemaLocation := by
  intro name other heq
  have htexts : ("components.schemas." ++ name).toList =
      ("components.schemas." ++ other).toList :=
    congrArg String.toList heq
  rw [String.toList_append, String.toList_append] at htexts
  exact String.toList_inj.mp (List.append_cancel_left htexts)

theorem countP_skips_entryWarnings (models : List String) (name : String)
    (entry : String × Value) :
    (entryWarnings models entry).countP (Warning.skips name) =
      if entry.1 = name ∧ becomesModel entry = false then 1 else 0 := by
  cases outcome models entry with
  | skipped cause hbecomes hcause hmodel hwarnings =>
      simp [hwarnings, Warning.skips, hcause, hbecomes,
        schemaLocation_injective.eq_iff]
  | modelled model hbecomes hmodel hdescribes hwarnings hlength =>
      rw [if_neg (by simp [hbecomes]), List.countP_eq_zero]
      intro warning hmem
      simp [Warning.skips,
        Cause.skipsSchema_of_degradesModel (hwarnings warning hmem)]

theorem perm_warnings_withoutPaths (document : ApiDocument) :
    (ofDocument (withoutPaths document)).warnings.Perm
      (document.schemas.flatMap
        (entryWarnings (modelNames (readableSchemas document.schemas)))) := by
  refine List.Perm.trans ?_ (perm_schemaWarnings _ document.schemas)
  exact List.Perm.of_eq (List.append_nil _)

theorem pathFault?_of_mem_entryWarnings {models : List String}
    {entry : String × Value} {warning : Warning}
    (hmem : warning ∈ entryWarnings models entry) :
    warning.cause.pathFault? = none := by
  cases outcome models entry with
  | skipped cause hbecomes hcause hmodel hwarnings =>
      rw [hwarnings, List.mem_singleton] at hmem
      rw [hmem]
      exact Cause.pathFault?_of_schema (Or.inl hcause)
  | modelled model hbecomes hmodel hdescribes hwarnings hlength =>
      exact Cause.pathFault?_of_schema (Or.inr (hwarnings warning hmem))

theorem pathFault?_of_mem_withoutPaths {document : ApiDocument}
    {warning : Warning}
    (hmem : warning ∈ (ofDocument (withoutPaths document)).warnings) :
    warning.cause.pathFault? = none := by
  obtain ⟨entry, -, hentry⟩ :=
    List.mem_flatMap.mp ((perm_warnings_withoutPaths document).mem_iff.mp hmem)
  exact pathFault?_of_mem_entryWarnings hentry

end Api
end ApiClientGen

import ApiClientGen.Proofs.SchemaAccounting
import ApiClientGen.Proofs.TextPieces

/-!
# Warnings at the place of a component schema

A warning about a component schema stands at the schema itself or at one of its
properties.  The name of a schema can be read off either place: properties are
only warned about where the name has no dots.  So what a test finds among all
warnings of a document can be counted in those that are written for one schema.
-/

namespace ApiClientGen
namespace Api

open Document (ApiDocument SchemaObject propertyEntries)
open Json (Value)

/-! ## Places -/

def propertyLocation (name key : String) : String :=
  schemaLocation name ++ ".properties." ++ key

theorem toList_propertyLocation (name key : String) :
    (propertyLocation name key).toList =
      "components.schemas.".toList ++
        (name.toList ++ '.' :: ("properties.".toList ++ key.toList)) := by
  have hseparator : ".properties.".toList = '.' :: "properties.".toList := by
    decide
  unfold propertyLocation schemaLocation
  rw [String.toList_append, String.toList_append, String.toList_append,
    hseparator, List.append_assoc, List.append_assoc, List.cons_append]

/-- What stands in front of the first `c` can be told from the whole list. -/
theorem eq_of_append_cons {α : Type} {c : α} {front other back rest : List α}
    (hfront : c ∉ front) (hother : c ∉ other)
    (heq : front ++ c :: back = other ++ c :: rest) : front = other := by
  rcases Text.append_cons_cases heq with
    ⟨hsame, -⟩ | ⟨between, rfl, -⟩ | ⟨between, rfl, -⟩
  · exact hsame
  · simp at hother
  · simp at hfront

/-- The name of a schema without dots can be read off the place of a
property. -/
theorem eq_of_propertyLocation_begins {name other key : String}
    (hname : '.' ∉ name.toList) (hother : '.' ∉ other.toList)
    (hbegins : (propertyLocation name "").toList <+:
      (propertyLocation other key).toList) :
    name = other := by
  obtain ⟨rest, hrest⟩ := hbegins
  rw [toList_propertyLocation, toList_propertyLocation, List.append_assoc,
    List.append_assoc, List.cons_append] at hrest
  exact String.toList_inj.mp
    (eq_of_append_cons hname hother (List.append_cancel_left hrest))

theorem propertyLocation_begins (name key : String) :
    (propertyLocation name "").toList <+:
      (propertyLocation name key).toList := by
  refine ⟨key.toList, ?_⟩
  rw [toList_propertyLocation, toList_propertyLocation, String.toList_empty,
    List.append_nil, List.append_assoc, List.append_assoc, List.cons_append]

theorem propertyLocation_injective (name : String) :
    Function.Injective (propertyLocation name) :=
  fun _ _ heq => (String.append_right_inj _).mp heq

/-! ## The warnings of one schema -/

theorem not_mem_dot_of_isIdentifier {name : String}
    (hname : Naming.isIdentifier name = true) :
    '.' ∉ name.toList := by
  have hdot : Naming.isIdentifierChar '.' = false := by decide +kernel
  intro hmem
  simp [isIdentifierChar_of_mem hname hmem] at hdot

/-- A warning about the component schema with the given name: that it has no
model, or about a member or a property of its model. -/
inductive AboutSchema (name : String) : Warning → Prop where
  | skipped (cause : Cause) (hcause : cause.skipsSchema = true) :
      AboutSchema name ⟨schemaLocation name, cause⟩
  | member (member : String) :
      AboutSchema name ⟨schemaLocation name, .memberNotIdentifier member⟩
  | property (key : String) (hname : Naming.isIdentifier name = true) :
      AboutSchema name ⟨propertyLocation name key, .propertyNotSchema⟩

theorem aboutSchema_of_mem_entryWarnings {models : List String}
    {entry : String × Value} {warning : Warning}
    (hmem : warning ∈ entryWarnings models entry) :
    AboutSchema entry.1 warning := by
  cases hread : readSchema entry with
  | error error =>
      cases outcome models entry with
      | skipped cause _ hcause _ hwarnings =>
          rw [hwarnings, List.mem_singleton] at hmem
          exact hmem ▸ .skipped cause hcause
      | modelled model _ hmodel =>
          simp [entryModel?, hread, Except.toOption] at hmodel
  | ok read =>
      obtain ⟨name, schema⟩ := read
      obtain ⟨hname, -, rfl, -⟩ := readSchema_eq_ok_iff.mp hread
      simp only [entryWarnings, hread, modelWarnings] at hmem
      split at hmem
      · obtain ⟨member, -, rfl⟩ := List.mem_map.mp hmem
        exact .member member
      · split at hmem
        · obtain ⟨property, -, hproperty⟩ := List.mem_filterMap.mp hmem
          unfold propertyWarning? at hproperty
          split at hproperty
          · cases hproperty
            exact .property property.1 hname
          · cases hproperty
        · rw [List.mem_singleton.mp hmem]
          exact .skipped .schemaWithoutModel rfl

/-- If a test passes no warning about paths and none about another schema, it
counts the same among all warnings as among those of its schema. -/
theorem countP_warnings_of_mem_schemas {document : ApiDocument}
    {entry : String × Value} (hentry : entry ∈ document.schemas)
    {test : Warning → Bool}
    (hpaths :
      ∀ warning, warning.cause.pathFault?.isSome = true → test warning = false)
    (hother : ∀ name, name ≠ entry.1 →
      ∀ warning, AboutSchema name warning → test warning = false) :
    (ofDocument document).warnings.countP test =
      (entryWarnings (modelNames (readableSchemas document.schemas))
        entry).countP test := by
  have hnone :
      (operationsOfPaths (modelNames (readableSchemas document.schemas)) []
        document.paths.toList).warnings.countP test = 0 := by
    rw [List.countP_eq_zero]
    intro warning hmem
    simp [hpaths warning
      ((reports_operationsOfPaths document).known warning hmem)]
  have hlocal : ∀ other ∈ document.schemas, ∀ name, other.1 ≠ name →
      (entryWarnings (modelNames (readableSchemas document.schemas))
        other).countP
        (fun warning => name == entry.1 && test warning) = 0 := by
    intro other _ name hne
    rw [List.countP_eq_zero]
    intro warning hmem
    by_cases hname : name = entry.1
    · simp [hother other.1 (hname ▸ hne) warning
        (aboutSchema_of_mem_entryWarnings hmem)]
    · simp [hname]
  have hcount :=
    countP_flatMap_of_nodup (nodup_names_schemas document) hlocal hentry
  rw [warnings_withoutPaths, List.countP_append, hnone, Nat.add_zero,
    (perm_warnings_withoutPaths document).countP_eq]
  simpa using hcount

/-! ## Warnings that name a schema -/

def Cause.rejectsProperty : Cause → Bool
  | .propertyNotSchema => true
  | _ => false

theorem Cause.rejectsProperty_of_pathFault? {cause : Cause}
    (hfault : cause.pathFault?.isSome = true) :
    cause.rejectsProperty = false := by
  cases cause <;> first | rfl | cases hfault

theorem Cause.rejectsProperty_of_skipsSchema {cause : Cause}
    (hskips : cause.skipsSchema = true) :
    cause.rejectsProperty = false := by
  cases cause <;> first | rfl | cases hskips

/-- Whether a warning names the component schema with the given name: it stands
at the schema, or at a property of it. -/
def Warning.names (name : String) (warning : Warning) : Bool :=
  if warning.cause.rejectsProperty then
    (propertyLocation name "").toList.isPrefixOf warning.location.toList
  else
    (warning.cause.skipsSchema || warning.cause.degradesModel) &&
      warning.location == schemaLocation name

theorem AboutSchema.names {name : String} {warning : Warning}
    (habout : AboutSchema name warning) :
    warning.names name = true := by
  cases habout with
  | skipped cause hcause =>
      simp [Warning.names, Cause.rejectsProperty_of_skipsSchema hcause, hcause]
  | member member =>
      simp [Warning.names, Cause.rejectsProperty, Cause.degradesModel]
  | property key hname =>
      simpa [Warning.names, Cause.rejectsProperty]
        using propertyLocation_begins name key

theorem AboutSchema.not_names {name other : String} (hname : '.' ∉ name.toList)
    (hne : other ≠ name) {warning : Warning}
    (habout : AboutSchema other warning) : warning.names name = false := by
  cases habout with
  | skipped cause hcause =>
      simp [Warning.names, Cause.rejectsProperty_of_skipsSchema hcause,
        schemaLocation_injective.eq_iff, hne]
  | member member =>
      simp [Warning.names, Cause.rejectsProperty,
        schemaLocation_injective.eq_iff, hne]
  | property key hother =>
      have hbegins : ¬ (propertyLocation name "").toList <+:
          (propertyLocation other key).toList := by
        intro hbegins
        exact hne (eq_of_propertyLocation_begins hname
          (not_mem_dot_of_isIdentifier hother) hbegins).symm
      simpa [Warning.names, Cause.rejectsProperty, ← Bool.not_eq_true]
        using hbegins

theorem Warning.names_of_pathFault? {warning : Warning}
    (hfault : warning.cause.pathFault?.isSome = true) (name : String) :
    warning.names name = false := by
  have hdegrades : warning.cause.degradesModel = false := by
    cases hcause : warning.cause <;>
      first | rfl | simp [hcause, Cause.pathFault?] at hfault
  simp [Warning.names, Cause.rejectsProperty_of_pathFault? hfault,
    Cause.skipsSchema_of_pathFault? hfault, hdegrades]

/-- If only warnings that name a schema pass a test, it counts the same among
all warnings as among those of the schema. -/
theorem countP_warnings_of_names {document : ApiDocument}
    {entry : String × Value} (hentry : entry ∈ document.schemas)
    (hname : '.' ∉ entry.1.toList) {test : Warning → Bool}
    (hnames : ∀ warning, test warning = true → warning.names entry.1 = true) :
    (ofDocument document).warnings.countP test =
      (entryWarnings (modelNames (readableSchemas document.schemas))
        entry).countP test := by
  have hfails : ∀ warning : Warning,
      warning.names entry.1 = false → test warning = false := by
    intro warning hnot
    rw [← Bool.not_eq_true]
    exact fun htest =>
      Bool.false_ne_true (hnot.symm.trans (hnames warning htest))
  exact countP_warnings_of_mem_schemas hentry (fun warning hfault =>
    hfails warning (Warning.names_of_pathFault? hfault entry.1))
    (fun _ hne warning habout => hfails warning (habout.not_names hname hne))

/-- A component schema is skipped with one warning if it becomes no model, and
with none if it becomes one. -/
theorem countP_skips_warnings {document : ApiDocument} {entry : String × Value}
    (hentry : entry ∈ document.schemas) :
    (ofDocument document).warnings.countP (Warning.skips entry.1) =
      if becomesModel entry then 0 else 1 := by
  have hpaths : ∀ warning : Warning, warning.cause.pathFault?.isSome = true →
      warning.skips entry.1 = false := by
    intro warning hfault
    simp [Warning.skips, Cause.skipsSchema_of_pathFault? hfault]
  have hother : ∀ name, name ≠ entry.1 → ∀ warning, AboutSchema name warning →
      warning.skips entry.1 = false := by
    intro name hne warning habout
    cases habout with
    | skipped cause hcause =>
        simp [Warning.skips, schemaLocation_injective.eq_iff, hne]
    | member member => rfl
    | property key hname => rfl
  rw [countP_warnings_of_mem_schemas hentry hpaths hother,
    countP_skips_entryWarnings]
  cases becomesModel entry <;> simp

/-! ## Schemas of models -/

/-- Under the name of a model stands the object that it is made of. -/
theorem exists_object_of_mem_models {document : ApiDocument} {model : Model}
    (hmem : model ∈ (ofDocument document).models) :
    ∃ fields, (model.name, .object fields) ∈ document.schemas ∧
      entryModel? (modelNames (readableSchemas document.schemas))
        (model.name, .object fields) = some model := by
  rw [models_ofDocument] at hmem
  obtain ⟨entry, hentry, hmodel⟩ := List.mem_filterMap.mp hmem
  cases outcome (modelNames (readableSchemas document.schemas)) entry with
  | skipped cause _ _ hnone =>
      rw [hnone] at hmodel
      cases hmodel
  | modelled made _ hmade hdescribes =>
      obtain rfl : made = model := Option.some.inj (hmade.symm.trans hmodel)
      cases hdescribes with
      | enumeration => exact ⟨_, hentry, hmodel⟩
      | record => exact ⟨_, hentry, hmodel⟩

theorem nodup_propertyEntries (fields : List (String × Value)) :
    (entryKeys (propertyEntries fields)).Nodup := by
  unfold propertyEntries
  split
  · exact OrderedMap.distinct _
  · exact List.nodup_nil

/-- A record is made of the properties of its schema, and what is warned about
are properties only. -/
theorem exists_properties_of_mem_models {document : ApiDocument}
    {record : RecordModel}
    (hmem : .record record ∈ (ofDocument document).models) :
    ∃ fields, (record.name, .object fields) ∈ document.schemas ∧
      record.fields = (propertyEntries fields).map
        (fieldOfProperty (modelNames (readableSchemas document.schemas))) ∧
      entryWarnings (modelNames (readableSchemas document.schemas))
        (record.name, .object fields) = (propertyEntries fields).filterMap
          (propertyWarning? (modelNames (readableSchemas document.schemas))
            (schemaLocation record.name)) := by
  obtain ⟨fields, hentry, hmodel⟩ := exists_object_of_mem_models hmem
  refine ⟨fields, hentry, ?_⟩
  obtain ⟨schema, hread, hmodel⟩ := exists_schema_of_entryModel? hmodel
  have hok : readSchema (record.name, .object fields) =
      .ok (record.name, schema) := hread
  have hproperties := (standsIn_of_readSchema hok).toList_properties
  cases henum : schema.enumeration with
  | some values => simp [modelOf?, henum] at hmodel
  | none =>
      by_cases hpresent : schema.properties.isPresent = true
      · have hfields : schema.properties.toList.map
            (fieldOfProperty (modelNames (readableSchemas document.schemas))) =
            record.fields := by
          simp only [modelOf?, henum, hpresent, if_true, Option.some.injEq,
            Model.record.injEq] at hmodel
          rw [← hmodel]
        refine ⟨by rw [← hfields, hproperties], ?_⟩
        rw [entryWarnings_of_readSchema hok]
        simp only [modelWarnings, henum, hpresent, if_true, hproperties]
      · simp [modelOf?, henum, hpresent] at hmodel

theorem name_of_mem_fields {document : ApiDocument} {record : RecordModel}
    (hmem : .record record ∈ (ofDocument document).models) {field : Field}
    (hfield : field ∈ record.fields) :
    field.name = Naming.capitalizeFirst field.originalName := by
  obtain ⟨fields, -, hfields, -⟩ := exists_properties_of_mem_models hmem
  rw [hfields] at hfield
  obtain ⟨entry, -, rfl⟩ := List.mem_map.mp hfield
  rfl

end Api
end ApiClientGen

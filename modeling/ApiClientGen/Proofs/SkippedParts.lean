import ApiClientGen.Proofs.SchemaAccounting
import Mathlib.Data.List.Flatten

/-!
# A document without its skipped parts

Whatever is skipped could still leave a trace: a schema without a model could
catch a reference, an operation that cannot be read could use up a name, and a
list of parameters that cannot be read could differ from a missing one.  Here
all these parts are taken out of a document, and the run on what is left is
compared with the run on the whole document, step by step.  Results agree and
warnings can only get fewer.
-/

namespace ApiClientGen

/-! ## Maps with fewer entries -/

namespace OrderedMap

variable {α β : Type}

def filter (keep : String × α → Bool) (m : OrderedMap α) : OrderedMap α :=
  ⟨m.entries.filter keep, m.distinct.sublist (List.filter_sublist.map Prod.fst)⟩

def mapValues (f : α → β) (m : OrderedMap α) : OrderedMap β :=
  ⟨m.entries.map fun entry => (entry.1, f entry.2), by
    have hkeys : entryKeys (m.entries.map fun entry => (entry.1, f entry.2)) =
        entryKeys m.entries := by
      rw [entryKeys, List.map_map]
      rfl
    rw [hkeys]
    exact m.distinct⟩

/-- Under a key stands what stood there before, if it passed. -/
theorem get?_filter (keep : String × α → Bool) (m : OrderedMap α)
    (key : String) :
    (m.filter keep).get? key =
      (m.get? key).filter fun value => keep (key, value) := by
  obtain ⟨entries, hdistinct⟩ := m
  have hlookup : (entries.filter keep).lookup key =
      (entries.lookup key).filter fun value => keep (key, value) := by
    induction entries with
    | nil => rfl
    | cons entry rest ih =>
        obtain ⟨other, value⟩ := entry
        obtain ⟨hfresh, hrest⟩ := List.nodup_cons.mp hdistinct
        by_cases hkey : key = other
        · subst hkey
          have hgone : (rest.filter keep).lookup key = none := by
            rw [ih hrest, List.lookup_eq_none_iff.mpr]
            · rfl
            · intro later hlater
              have hne : key ≠ later.1 := by
                intro heq
                exact hfresh (List.mem_map.mpr ⟨later, hlater, heq.symm⟩)
              simpa using hne
          by_cases hkeep : keep (key, value) = true
          · simp [hkeep, Option.filter]
          · simp [hkeep, hgone, Option.filter]
        · have hother : (key == other) = false := by simpa using hkey
          rw [List.lookup_cons, hother, ← ih hrest]
          by_cases hkeep : keep (other, value) = true
          · simp [hkeep, List.lookup_cons, hother]
          · simp [hkeep]
  exact hlookup

end OrderedMap

namespace Api

open Document (ApiDocument Components OperationObject PathItem)
open Json (Value)

/-! ## Taking the skipped parts out -/

/-- Whether an entry of a path is an operation that can be read or a list of
parameters that can be read. -/
def isReadableEntry (entry : String × Value) : Bool :=
  (HttpMethod.named? entry.1).isSome && (OperationObject.ofJson entry.2).isOk ||
    entry.1 == "parameters" &&
      (Document.listOf Document.parameterOrRef entry.2).isOk

/-- A path with the entries that can be read. -/
def readablePart (item : PathItem) : PathItem :=
  ⟨item.entries.filter isReadableEntry⟩

/-- The component schemas that become models. -/
def modelledPart (components : Components) : Components :=
  ⟨components.schemas.map (OrderedMap.filter becomesModel)⟩

/-- The document without the component schemas that become no model and without
the entries of paths that cannot be read or mean nothing. -/
def prune (document : ApiDocument) : ApiDocument :=
  { document with
    paths := document.paths.mapValues readablePart
    components := document.components.map modelledPart }

theorem schemas_prune (document : ApiDocument) :
    (prune document).schemas = document.schemas.filter becomesModel := by
  obtain ⟨openapi, swagger, info, paths, components⟩ := document
  rcases components with _ | ⟨_ | schemas⟩
  · rfl
  · rfl
  · rfl

theorem paths_prune (document : ApiDocument) :
    (prune document).paths.toList =
      document.paths.toList.map fun entry => (entry.1, readablePart entry.2) :=
  rfl

/-! ## Runs that differ in their warnings -/

/-- A run with the same result as another one and with some of its warnings, in
order. -/
structure Reported.Within {α : Type} (part whole : Reported α) : Prop where
  result : part.result = whole.result
  warnings : part.warnings.Sublist whole.warnings

/-- A list of parameters that cannot be read has the effect of a missing one. -/
theorem within_sharedParameters (models : List String) (path : String)
    (item : PathItem) :
    (sharedParameters models path (readablePart item)).Within
      (sharedParameters models path item) := by
  have hreadable : ∀ value, isReadableEntry ("parameters", value) =
      (Document.listOf Document.parameterOrRef value).isOk := by
    intro value
    have hverb : HttpMethod.named? "parameters" = none := by decide +kernel
    simp [isReadableEntry, hverb]
  have hget : (readablePart item).entries.get? "parameters" =
      (item.entries.get? "parameters").filter fun value =>
        (Document.listOf Document.parameterOrRef value).isOk := by
    simp only [readablePart, OrderedMap.get?_filter, hreadable]
  unfold sharedParameters
  rw [hget]
  cases hvalue : item.entries.get? "parameters" with
  | none => exact ⟨rfl, List.Sublist.refl _⟩
  | some value =>
      cases hlist : Document.listOf Document.parameterOrRef value with
      | error error =>
          have hgone : (some value).filter (fun value =>
              (Document.listOf Document.parameterOrRef value).isOk) = none := by
            simp [hlist, Except.isOk, Except.toBool]
          rw [hgone]
          simp only [hlist]
          exact ⟨rfl, List.nil_sublist _⟩
      | ok entries =>
          have hkept : (some value).filter (fun value =>
              (Document.listOf Document.parameterOrRef value).isOk) =
                some value := by
            simp [hlist, Except.isOk, Except.toBool]
          rw [hkept]
          exact ⟨rfl, List.Sublist.refl _⟩

theorem isReadableEntry_of_operation {path : String} {entry : String × Value}
    {method : HttpMethod} {object : OperationObject}
    (hread : readPathEntry path entry = .operation method object) :
    isReadableEntry entry = true := by
  unfold readPathEntry at hread
  rw [HttpMethod.ofKey?_eq_named?] at hread
  cases hmethod : HttpMethod.named? entry.1 with
  | none => simp [hmethod] at hread
  | some named =>
      cases hobject : OperationObject.ofJson entry.2 with
      | error error => simp [hmethod, hobject] at hread
      | ok read =>
          simp [isReadableEntry, hmethod, hobject, Except.isOk, Except.toBool]

/-- An entry that is taken out was no operation, so it used up no name. -/
theorem within_operationsOfEntries (models taken : List String) (path : String)
    (shared : List Parameter) (entries : List (String × Value)) :
    (operationsOfEntries models path shared taken
      (entries.filter isReadableEntry)).Within
      (operationsOfEntries models path shared taken entries) := by
  induction entries generalizing taken with
  | nil => exact ⟨rfl, List.Sublist.refl _⟩
  | cons entry rest ih =>
      cases hread : readPathEntry path entry with
      | operation method object =>
          have hrest :=
            ih (taken ++ [freshName taken (Naming.operationName path entry.1)])
          rw [List.filter_cons_of_pos (isReadableEntry_of_operation hread)]
          simp only [operationsOfEntries, hread]
          exact ⟨congrArg (List.cons _) hrest.result,
            hrest.warnings.append_left _⟩
      | skipped warnings =>
          have hrest := ih taken
          have hwhole :
              operationsOfEntries models path shared taken (entry :: rest) =
                ⟨(operationsOfEntries models path shared taken rest).result,
                  warnings ++
                    (operationsOfEntries models path shared taken
                      rest).warnings⟩ := by
            simp only [operationsOfEntries, hread]
          rw [hwhole]
          by_cases hreadable : isReadableEntry entry = true
          · rw [List.filter_cons_of_pos hreadable]
            simp only [operationsOfEntries, hread]
            exact ⟨hrest.result, hrest.warnings.append_left _⟩
          · rw [List.filter_cons_of_neg hreadable]
            exact ⟨hrest.result,
              hrest.warnings.trans (List.sublist_append_right _ _)⟩

theorem within_operationsOfPaths (models taken : List String)
    (paths : List (String × PathItem)) :
    (operationsOfPaths models taken
      (paths.map fun entry => (entry.1, readablePart entry.2))).Within
      (operationsOfPaths models taken paths) := by
  induction paths generalizing taken with
  | nil => exact ⟨rfl, List.Sublist.refl _⟩
  | cons entry rest ih =>
      obtain ⟨path, item⟩ := entry
      have hshared := within_sharedParameters models path item
      have hhere := within_operationsOfEntries models taken path
        (sharedParameters models path item).result item.entries.toList
      have hitem : (readablePart item).entries.toList =
          item.entries.toList.filter isReadableEntry := rfl
      simp only [List.map_cons, operationsOfPaths, hshared.result, hitem,
        hhere.result]
      have hrest := ih (taken ++
        (operationsOfEntries models path
          (sharedParameters models path item).result taken
          item.entries.toList).result.map (·.name))
      refine ⟨congrArg (_ ++ ·) hrest.result, ?_⟩
      exact (hshared.warnings.append hhere.warnings).append hrest.warnings

/-! ## Schemas that become models -/

theorem becomesModel_eq (entry : String × Value) :
    becomesModel entry =
      (readSchema entry).toOption.any fun schema => hasModel schema.2 := by
  cases hread : readSchema entry with
  | error warning =>
      cases outcome [] entry with
      | skipped cause hbecomes => exact hbecomes
      | modelled model _ hmodel =>
          simp [entryModel?, hread, Except.toOption] at hmodel
  | ok read =>
      obtain ⟨name, value⟩ := entry
      obtain ⟨readName, schema⟩ := read
      obtain ⟨-, ⟨fields, rfl⟩, rfl, -⟩ := readSchema_eq_ok_iff.mp hread
      exact becomesModel_of_readSchema hread

theorem unreadableSchemaWarnings_filter (entries : List (String × Value)) :
    unreadableSchemaWarnings (entries.filter becomesModel) = [] := by
  rw [unreadableSchemaWarnings, List.filterMap_eq_nil_iff]
  intro entry hmem
  have hbecomes : becomesModel entry = true := (List.mem_filter.mp hmem).2
  cases hread : readSchema entry with
  | error warning => simp [becomesModel_eq, hread, Except.toOption] at hbecomes
  | ok schema => rfl

/-- Reading what becomes a model gives the schemas that have one. -/
theorem readableSchemas_filter (entries : List (String × Value)) :
    readableSchemas (entries.filter becomesModel) =
      (readableSchemas entries).filter fun schema => hasModel schema.2 := by
  induction entries with
  | nil => rfl
  | cons entry rest ih =>
      rw [readableSchemas_cons, List.filter_append, ← ih]
      by_cases hbecomes : becomesModel entry = true
      · rw [List.filter_cons_of_pos hbecomes, readableSchemas_cons]
        cases hread : (readSchema entry).toOption with
        | none => rfl
        | some schema =>
            have hmodel : hasModel schema.2 = true := by
              simpa [becomesModel_eq, hread] using hbecomes
            simp [hmodel]
      · rw [List.filter_cons_of_neg hbecomes]
        cases hread : (readSchema entry).toOption with
        | none => rfl
        | some schema =>
            have hmodel : hasModel schema.2 = false := by
              simpa [becomesModel_eq, hread] using hbecomes
            simp [hmodel]

/-- The names of the models do not depend on schemas without a model. -/
theorem modelNames_filter (schemas : List (String × Document.SchemaObject)) :
    modelNames (schemas.filter fun schema => hasModel schema.2) =
      modelNames schemas := by
  simp [modelNames, List.filter_filter]

theorem filterMap_entryModel?_filter (models : List String)
    (entries : List (String × Value)) :
    (entries.filter becomesModel).filterMap (entryModel? models) =
      entries.filterMap (entryModel? models) := by
  induction entries with
  | nil => rfl
  | cons entry rest ih =>
      cases outcome models entry with
      | skipped cause hbecomes _ hmodel =>
          rw [List.filter_cons_of_neg (by simp [hbecomes]),
            List.filterMap_cons_none hmodel, ih]
      | modelled model hbecomes hmodel =>
          rw [List.filter_cons_of_pos hbecomes, List.filterMap_cons_some hmodel,
            List.filterMap_cons_some hmodel, ih]

/-! ## The whole document -/

/-- A document and what is left of it without its skipped parts describe the
same API.  The warnings about what is left are warnings about the whole
document, in the same order. -/
theorem skipped_parts_have_no_influence (document : ApiDocument) :
    (ofDocument (prune document)).info = (ofDocument document).info ∧
      (ofDocument (prune document)).models = (ofDocument document).models ∧
      (ofDocument (prune document)).operations =
        (ofDocument document).operations ∧
      (ofDocument (prune document)).warnings.Sublist
        (ofDocument document).warnings := by
  have hschemas := readableSchemas_filter document.schemas
  have hnames :
      modelNames (readableSchemas (document.schemas.filter becomesModel)) =
        modelNames (readableSchemas document.schemas) := by
    rw [hschemas, modelNames_filter]
  have hoperations :=
    within_operationsOfPaths (modelNames (readableSchemas document.schemas)) []
      document.paths.toList
  refine ⟨rfl, ?_, ?_, ?_⟩
  · rw [models_ofDocument, models_ofDocument, schemas_prune, hnames,
      filterMap_entryModel?_filter]
  · simp only [ofDocument, schemas_prune, hnames, paths_prune]
    exact hoperations.result
  · simp only [ofDocument, schemas_prune, hnames, paths_prune,
      unreadableSchemaWarnings_filter]
    refine List.Sublist.append (List.Sublist.append (List.nil_sublist _) ?_)
      hoperations.warnings
    rw [hschemas]
    exact List.filter_sublist.flatMap _

end Api
end ApiClientGen

import ApiClientGen.Proofs.OperationParameters
import Mathlib.Algebra.BigOperators.Group.List.Basic
import Mathlib.Algebra.GroupWithZero.Nat

/-!
# Warnings about what stands under the paths

The warnings of a run are collected in many places, some once for a path and
some once for an operation.  Here they are first brought into two heaps, those
about a path itself and those about an operation, and then counted by their
kind.  The count is compared with the faults of the document, which are stated
without any warning: keys that are unknown, parts that cannot be read,
references that are not followed, names that were changed and placeholders that
no parameter is named after.
-/

namespace ApiClientGen
namespace Api

open Document (ApiDocument OperationObject ParameterObject PathItem RefOr
  RequestBody)
open Json (Value)
open PathTemplate (placeholders)

/-! ## The faults of a document -/

/-- What can be wrong with a part of a document that stands under a path. -/
inductive PathFault where
  | unknownKey
  | unreadableOperation
  | unreadableParameters
  | parameterReference
  | bodyReference
  | bodyWithoutJson
  | changedName
  | unnamedPlaceholder
deriving DecidableEq

def PathFault.all : List PathFault :=
  [.unknownKey, .unreadableOperation, .unreadableParameters,
    .parameterReference, .bodyReference, .bodyWithoutJson, .changedName,
    .unnamedPlaceholder]

/-- The fault that a warning is about, if it is about one under a path. -/
def Cause.pathFault? : Cause → Option PathFault
  | .unknownPathKey => some .unknownKey
  | .operationUnreadable _ => some .unreadableOperation
  | .parametersUnreadable _ => some .unreadableParameters
  | .parameterReference _ => some .parameterReference
  | .bodyReference _ => some .bodyReference
  | .bodyWithoutJson => some .bodyWithoutJson
  | .renamed _ _ => some .changedName
  | .placeholderWithoutParameter _ => some .unnamedPlaceholder
  | _ => none

/-- A key of a path that means nothing: it is no verb, none of the keys that may
stand there, and no extension. -/
def isUnknownKey (key : String) : Bool :=
  (HttpMethod.named? key).isNone &&
    !(["parameters", "summary", "description", "servers", "$ref"].contains
      key) &&
    !"x-".toList.isPrefixOf key.toList

/-- The faults of one entry of a path that is no operation. -/
def keyFaults (entry : String × Value) : PathFault → ℕ
  | .unknownKey => (isUnknownKey entry.1).toNat
  | .unreadableOperation =>
    ((HttpMethod.named? entry.1).isSome &&
      !(OperationObject.ofJson entry.2).isOk).toNat
  | _ => 0

/-- The parameters that stand under a path, as far as they can be read. -/
def sharedList? (item : PathItem) :
    Option (Except Document.ShapeError (List (RefOr ParameterObject))) :=
  (item.entries.get? "parameters").map (Document.listOf Document.parameterOrRef)

def sharedFaults (item : PathItem) : PathFault → ℕ
  | .unreadableParameters =>
    match sharedList? item with
    | some (.error _) => 1
    | _ => 0
  | .parameterReference =>
    match sharedList? item with
    | some (.ok parameters) => parameters.countP (·.isReference)
    | _ => 0
  | _ => 0

def bodyFaults (body : Option (RefOr RequestBody)) : PathFault → ℕ
  | .bodyReference =>
    match body with
    | some (.reference _) => 1
    | _ => 0
  | .bodyWithoutJson =>
    match body with
    | some (.inline body) =>
      (!body.content.toList.any fun entry =>
        Document.isJsonContentType entry.1).toNat
    | _ => 0
  | _ => 0

def operationFaults (declaration : Declaration) (operation : Operation) :
    PathFault → ℕ
  | .parameterReference =>
    (declaration.object.parameters.getD []).countP (·.isReference)
  | .bodyReference => bodyFaults declaration.object.requestBody .bodyReference
  | .bodyWithoutJson =>
    bodyFaults declaration.object.requestBody .bodyWithoutJson
  | .changedName =>
    (operation.name !=
      Naming.operationName declaration.path declaration.key).toNat +
      operation.parameters.countP fun parameter =>
        parameter.name != Naming.parameterIdentifier parameter.originalName
  | .unnamedPlaceholder =>
    (placeholders operation.path).countP fun name =>
      !operation.parameters.any (·.originalName == name)
  | _ => 0

/-- The faults of a document under its paths: those of every key, those of the
shared parameters of every path, and those of every operation. -/
def faultsUnderPaths (document : ApiDocument) (fault : PathFault) : ℕ :=
  (document.paths.toList.map fun entry =>
      (entry.2.entries.toList.map (keyFaults · fault)).sum +
        sharedFaults entry.2 fault).sum +
    (List.zipWith (operationFaults · · fault) (declarations document)
      (ofDocument document).operations).sum

def withoutPaths (document : ApiDocument) : ApiDocument :=
  { document with paths := .empty }

/-! ## The two heaps of warnings -/

/-- The warnings about an entry of a path that is no operation. -/
def keyWarnings (path : String) (entry : String × Value) : List Warning :=
  match readPathEntry path entry with
  | .skipped warnings => warnings
  | .operation _ _ => []

/-- The warnings about a path that are not about one of its operations. -/
def itemWarnings (models : List String) (entry : String × PathItem) :
    List Warning :=
  (sharedParameters models entry.1 entry.2).warnings ++
    entry.2.entries.toList.flatMap (keyWarnings entry.1)

/-- The warnings about the operation of a declaration, given its name. -/
def Declaration.warnings (models : List String) (declaration : Declaration)
    (operation : Operation) : List Warning :=
  renameWarnings declaration.location declaration.baseName operation.name ++
    (operationOf models declaration.location declaration.path
      (sharedParameters models declaration.path declaration.item).result
      operation.name
      declaration.method declaration.object).warnings

/-- The warnings about the operations of declarations, given the names that
earlier operations have. -/
def operationWarnings (models taken : List String)
    (declared : List Declaration) : List Warning :=
  (List.zipWith (Declaration.warnings models) declared
    (lowerFrom models taken declared)).flatten

theorem length_lowerFrom (models taken : List String)
    (declared : List Declaration) :
    (lowerFrom models taken declared).length = declared.length :=
  (forall₂_lowerFrom models taken declared).length_eq.symm

theorem operationWarnings_append (models taken : List String)
    (front back : List Declaration) :
    operationWarnings models taken (front ++ back) =
      operationWarnings models taken front ++
        operationWarnings models
          (taken ++ (lowerFrom models taken front).map (·.name)) back := by
  rw [operationWarnings, lowerFrom_append,
    List.zipWith_append (length_lowerFrom ..).symm, List.flatten_append]
  rfl

theorem perm_warnings_operationsOfEntries (models taken : List String)
    (path : String) (item : PathItem) (entries : List (String × Value)) :
    (operationsOfEntries models path
      (sharedParameters models path item).result taken entries).warnings.Perm
      (entries.flatMap (keyWarnings path) ++
        operationWarnings models taken
          (entries.filterMap (Declaration.ofEntry? path item))) := by
  induction entries generalizing taken with
  | nil => exact List.Perm.refl []
  | cons entry rest ih =>
      rcases readPathEntry_cases path item entry with
        ⟨method, object, hread, hentry⟩ | ⟨warnings, hread, hentry⟩
      · have hkey : keyWarnings path entry = [] := by rw [keyWarnings, hread]
        rw [List.filterMap_cons_some hentry, List.flatMap_cons, hkey,
          List.nil_append, operationsOfEntries, hread]
        exact ((ih _).append_left _).trans (List.perm_append_comm_assoc ..)
      · have hkey : keyWarnings path entry = warnings := by
          rw [keyWarnings, hread]
        rw [List.filterMap_cons_none hentry, List.flatMap_cons, hkey,
          List.append_assoc, operationsOfEntries, hread]
        exact (ih taken).append_left warnings

/-- The warnings about the operations of a path move behind those about the
later paths. -/
theorem perm_warnings_operationsOfPaths (models taken : List String)
    (paths : List (String × PathItem)) :
    (operationsOfPaths models taken paths).warnings.Perm
      (paths.flatMap (itemWarnings models) ++
        operationWarnings models taken (declarationsOfPaths paths)) := by
  induction paths generalizing taken with
  | nil => exact List.Perm.refl []
  | cons entry rest ih =>
      obtain ⟨path, item⟩ := entry
      have hsplit : declarationsOfPaths ((path, item) :: rest) =
          item.entries.toList.filterMap (Declaration.ofEntry? path item) ++
            declarationsOfPaths rest :=
        rfl
      rw [hsplit, operationWarnings_append, ← operationsOfEntries_result,
        List.flatMap_cons, operationsOfPaths]
      have hhere := perm_warnings_operationsOfEntries models taken path item
        item.entries.toList
      refine ((hhere.append_left _).append (ih _)).trans ?_
      rw [itemWarnings, List.append_assoc, List.append_assoc, List.append_assoc,
        List.append_assoc]
      exact ((List.perm_append_comm_assoc ..).append_left _).append_left _

/-! ## Counting warnings by their faults -/

/-- Warnings about faults under the paths, as many of each fault as given. -/
structure Reports (warnings : List Warning) (faults : PathFault → ℕ) :
    Prop where
  known : ∀ warning ∈ warnings, warning.cause.pathFault?.isSome
  count :
    ∀ fault, warnings.countP (·.cause.pathFault? == some fault) = faults fault

namespace Reports

variable {warnings others : List Warning} {faults further : PathFault → ℕ}

theorem congr (hreports : Reports warnings faults)
    (hsame : ∀ fault, faults fault = further fault) :
    Reports warnings further :=
  ⟨hreports.known, fun fault => (hreports.count fault).trans (hsame fault)⟩

theorem of_perm (hreports : Reports warnings faults)
    (hperm : others.Perm warnings) :
    Reports others faults where
  known := fun warning hmem => hreports.known warning (hperm.mem_iff.mp hmem)
  count := fun fault => (hperm.countP_eq _).trans (hreports.count fault)

theorem nil : Reports [] fun _ => 0 :=
  ⟨by simp, by simp⟩

theorem append (hreports : Reports warnings faults)
    (hothers : Reports others further) :
    Reports (warnings ++ others) fun fault => faults fault + further fault where
  known := by
    intro warning hmem
    rcases List.mem_append.mp hmem with hleft | hright
    · exact hreports.known warning hleft
    · exact hothers.known warning hright
  count := by
    intro fault
    rw [List.countP_append, hreports.count, hothers.count]

/-- Warnings that are all about one fault. -/
theorem of_same (fault : PathFault)
    (hsame : ∀ warning ∈ warnings, warning.cause.pathFault? = some fault) :
    Reports warnings fun other =>
      if other = fault then warnings.length else 0 where
  known := by
    intro warning hmem
    rw [hsame warning hmem, Option.isSome_some]
  count := by
    intro other
    split
    · rename_i heq
      rw [List.countP_eq_length]
      intro warning hmem
      rw [hsame warning hmem, heq, beq_self_eq_true]
    · rename_i hne
      rw [List.countP_eq_zero]
      intro warning hmem
      simp [hsame warning hmem, Ne.symm hne]

theorem flatMap {α : Type} {items : List α} {write : α → List Warning}
    {each : α → PathFault → ℕ}
    (hitems : ∀ item ∈ items, Reports (write item) (each item)) :
    Reports (items.flatMap write) fun fault =>
      (items.map (each · fault)).sum := by
  induction items with
  | nil => exact nil
  | cons item rest ih =>
      have hcons := List.forall_mem_cons.mp hitems
      exact hcons.1.append (ih hcons.2)

theorem flatten_zipWith {α β : Type} {xs : List α} {ys : List β}
    {write : α → β → List Warning} {each : α → β → PathFault → ℕ}
    (hpairs : List.Forall₂ (fun x y => Reports (write x y) (each x y)) xs ys) :
    Reports (List.zipWith write xs ys).flatten
      fun fault => (List.zipWith (each · · fault) xs ys).sum := by
  induction hpairs with
  | nil => exact nil
  | cons hpair _ ih => exact hpair.append ih

theorem ne_of_eq_zero (hreports : Reports warnings faults) {fault : PathFault}
    (hzero : faults fault = 0) {warning : Warning} (hmem : warning ∈ warnings) :
    warning.cause.pathFault? ≠ some fault := by
  have hcount := (hreports.count fault).trans hzero
  simpa using List.countP_eq_zero.mp hcount warning hmem

/-- Every warning is counted under exactly one fault. -/
theorem length_eq (hreports : Reports warnings faults) :
    warnings.length = (PathFault.all.map faults).sum := by
  have hone : ∀ fault : PathFault,
      (PathFault.all.map fun other =>
        if some fault == some other then 1 else 0).sum = 1 := by
    intro fault
    cases fault <;> decide
  obtain ⟨hknown, hcount⟩ := hreports
  rw [← List.map_congr_left fun fault _ => hcount fault]
  clear hcount
  induction warnings with
  | nil => rfl
  | cons warning rest ih =>
      obtain ⟨hwarning, hrest⟩ := List.forall_mem_cons.mp hknown
      obtain ⟨fault, hfault⟩ := Option.isSome_iff_exists.mp hwarning
      simp only [List.countP_cons, List.sum_map_add, hfault, hone, ← ih hrest,
        List.length_cons]

end Reports

/-! ## The warnings of each kind -/

theorem reports_parameterReferenceWarnings (location : String)
    (entries : List (RefOr ParameterObject)) :
    Reports (parameterReferenceWarnings location entries) fun fault =>
      if fault = .parameterReference then entries.countP (·.isReference)
      else 0 := by
  have hlength : (parameterReferenceWarnings location entries).length =
      entries.countP (·.isReference) := by
    rw [parameterReferenceWarnings, List.length_filterMap_eq_countP]
    congr 1
    funext entry
    cases entry <;> rfl
  rw [← hlength]
  apply Reports.of_same .parameterReference
  intro warning hmem
  obtain ⟨entry, -, hentry⟩ := List.mem_filterMap.mp hmem
  cases entry with
  | inline node => cases hentry
  | reference path =>
      cases hentry
      rfl

theorem reports_sharedParameters (models : List String) (path : String)
    (item : PathItem) :
    Reports (sharedParameters models path item).warnings
      (sharedFaults item) := by
  unfold sharedParameters
  cases hvalue : item.entries.get? "parameters" with
  | none =>
      refine Reports.nil.congr fun fault => ?_
      cases fault <;> simp [sharedFaults, sharedList?, hvalue]
  | some value =>
      cases hlist : Document.listOf Document.parameterOrRef value with
      | error error =>
          simp only [hlist]
          refine (Reports.of_same .unreadableParameters ?_).congr ?_
          · simp [Cause.pathFault?]
          · intro fault
            cases fault <;> simp [sharedFaults, sharedList?, hvalue, hlist]
      | ok entries =>
          simp only [hlist]
          refine (reports_parameterReferenceWarnings _ entries).congr
            fun fault => ?_
          cases fault <;> simp [sharedFaults, sharedList?, hvalue, hlist]

theorem isUnknownKey_eq (key : String) :
    isUnknownKey key = ((HttpMethod.ofKey? key).isNone && !isQuietKey key) := by
  rw [isUnknownKey, HttpMethod.ofKey?_eq_named?, isQuietKey, Bool.not_or,
    Bool.and_assoc]
  rfl

theorem reports_keyWarnings (path : String) (entry : String × Value) :
    Reports (keyWarnings path entry) (keyFaults entry) := by
  cases hmethod : HttpMethod.ofKey? entry.1 with
  | none =>
      have hnamed : HttpMethod.named? entry.1 = none := by
        rw [← HttpMethod.ofKey?_eq_named?, hmethod]
      simp only [keyWarnings, readPathEntry, hmethod]
      refine (Reports.of_same .unknownKey ?_).congr ?_
      · intro warning hmem
        split at hmem
        · cases hmem
        · rw [List.mem_singleton.mp hmem]
          rfl
      · intro fault
        cases fault <;> cases hquiet : isQuietKey entry.1 <;>
          simp [keyFaults, isUnknownKey_eq, hmethod, hnamed, hquiet]
  | some method =>
      have hnamed : HttpMethod.named? entry.1 = some method := by
        rw [← HttpMethod.ofKey?_eq_named?, hmethod]
      cases hread : OperationObject.ofJson entry.2 with
      | ok object =>
          simp only [keyWarnings, readPathEntry, hmethod, hread]
          refine Reports.nil.congr fun fault => ?_
          cases fault <;> simp [keyFaults, isUnknownKey_eq, hmethod, hread,
            Except.isOk, Except.toBool]
      | error error =>
          simp only [keyWarnings, readPathEntry, hmethod, hread]
          refine (Reports.of_same .unreadableOperation ?_).congr ?_
          · simp [Cause.pathFault?]
          · intro fault
            cases fault <;>
              simp [keyFaults, isUnknownKey_eq, hmethod, hnamed, hread,
                Except.isOk, Except.toBool]

theorem reports_itemWarnings (models : List String)
    (entry : String × PathItem) :
    Reports (itemWarnings models entry) fun fault =>
      sharedFaults entry.2 fault +
        (entry.2.entries.toList.map (keyFaults · fault)).sum :=
  (reports_sharedParameters models entry.1 entry.2).append
    (Reports.flatMap fun key _ => reports_keyWarnings entry.1 key)

theorem isNone_jsonContent? (body : RequestBody) :
    body.jsonContent?.isNone =
      !body.content.toList.any fun entry =>
        Document.isJsonContentType entry.1 := by
  have hjson : Document.isJsonContentType "application/json" = true := by
    decide +kernel
  unfold RequestBody.jsonContent?
  cases hget : body.content.get? "application/json" with
  | some media =>
      obtain ⟨front, back, hsplit, -⟩ := List.lookup_eq_some_iff.mp hget
      have hentries : body.content.toList =
          front ++ ("application/json", media) :: back := hsplit
      simp [hentries, hjson]
  | none => rw [← List.isSome_find?, Option.not_isSome]

theorem reports_bodyOf (models : List String) (location : String)
    (body : Option (RefOr RequestBody)) :
    Reports (bodyOf models location body).warnings (bodyFaults body) := by
  rcases body with _ | ⟨path⟩ | ⟨body⟩
  · refine Reports.nil.congr fun fault => ?_
    cases fault <;> rfl
  · refine (Reports.of_same .bodyReference ?_).congr ?_
    · simp [bodyOf, Cause.pathFault?]
    · intro fault
      cases fault <;> rfl
  · have hnone := isNone_jsonContent? body
    cases hcontent : body.jsonContent? with
    | none =>
        simp only [bodyOf, hcontent]
        refine (Reports.of_same .bodyWithoutJson ?_).congr ?_
        · simp [Cause.pathFault?]
        · intro fault
          rw [hcontent, Option.isNone_none] at hnone
          cases fault <;> simp [bodyFaults, ← hnone]
    | some content =>
        simp only [bodyOf, hcontent]
        refine Reports.nil.congr fun fault => ?_
        rw [hcontent, Option.isNone_some] at hnone
        cases fault <;> simp [bodyFaults, ← hnone]

theorem renamed_of_mem_renameWarnings {location base name : String}
    {warning : Warning} (hmem : warning ∈ renameWarnings location base name) :
    warning.cause.pathFault? = some .changedName := by
  unfold renameWarnings at hmem
  split at hmem
  · cases hmem
  · rw [List.mem_singleton.mp hmem]
    rfl

theorem length_renameWarnings (location base name : String) :
    (renameWarnings location base name).length = (name != base).toNat := by
  by_cases hname : name = base
  · simp [renameWarnings, hname]
  · have hother : (name != base) = true := bne_iff_ne.mpr hname
    simp [renameWarnings, hname, hother]

theorem reports_renameWarnings (location base name : String) :
    Reports (renameWarnings location base name) fun fault =>
      if fault = .changedName then (name != base).toNat else 0 := by
  rw [← length_renameWarnings location base name]
  exact Reports.of_same .changedName fun _ => renamed_of_mem_renameWarnings

/-- If parameters have the names made from those in the document, every other
name they end up with is reported. -/
theorem reports_renameParameters (location : String) (taken : List String)
    {parameters : List Parameter}
    (hnames : ∀ parameter ∈ parameters,
      parameter.name = Naming.parameterIdentifier parameter.originalName) :
    Reports (renameParameters location taken parameters).warnings fun fault =>
      if fault = .changedName then
        (renameParameters location taken parameters).result.countP
          fun parameter =>
            parameter.name != Naming.parameterIdentifier parameter.originalName
      else 0 := by
  induction parameters generalizing taken with
  | nil => exact Reports.nil.congr (by simp [renameParameters])
  | cons parameter rest ih =>
      obtain ⟨hname, hrest⟩ := List.forall_mem_cons.mp hnames
      rw [renameParameters]
      refine ((reports_renameWarnings _ _ _).append (ih _ hrest)).congr
        fun fault => ?_
      by_cases hfault : fault = .changedName
      · have hone : ∀ test : Bool,
            test.toNat = if test = true then 1 else 0 := by decide
        simp only [hfault, if_true, List.countP_cons, hname, hone, add_comm]
      · simp only [hfault, if_false]

theorem reports_placeholderWarnings (location path : String)
    (parameters : List Parameter) :
    Reports (placeholderWarnings location path parameters) fun fault =>
      if fault = .unnamedPlaceholder then
        (placeholders path).countP fun name =>
          !parameters.any (·.originalName == name)
      else 0 := by
  have hlength : (placeholderWarnings location path parameters).length =
      (placeholders path).countP fun name =>
        !parameters.any (·.originalName == name) := by
    rw [placeholderWarnings, List.length_map, List.countP_eq_length_filter]
  rw [← hlength]
  apply Reports.of_same .unnamedPlaceholder
  intro warning hmem
  obtain ⟨name, -, rfl⟩ := List.mem_map.mp hmem
  rfl

/-! ## The warnings of a document -/

theorem Declaration.name_of_mem_merged (models : List String)
    (declaration : Declaration) :
    ∀ parameter ∈ declaration.parameterObjects.map (parameterOf models),
      parameter.name = Naming.parameterIdentifier parameter.originalName := by
  intro parameter hmem
  obtain ⟨object, -, rfl⟩ := List.mem_map.mp hmem
  rfl

theorem Declaration.reports_warnings (models : List String)
    (declaration : Declaration) (name : String) :
    Reports (declaration.warnings models (declaration.lowered models name))
      (operationFaults declaration (declaration.lowered models name)) := by
  have hreports :=
    (reports_renameWarnings declaration.location declaration.baseName
      name).append
      ((((reports_parameterReferenceWarnings
        (declaration.location ++ ".parameters")
        (declaration.object.parameters.getD [])).append
        (reports_bodyOf models declaration.location
          declaration.object.requestBody)).append
        (reports_renameParameters declaration.location
          (reservedNames (declaration.lowered models name).body)
          (declaration.name_of_mem_merged models))).append
        (reports_placeholderWarnings declaration.location declaration.path
          (declaration.lowered models name).parameters))
  rw [← lowered_parameters, ← mergeParameters_eq_map] at hreports
  have hwarnings : Reports (declaration.warnings models
      (declaration.lowered models name)) _ := hreports
  have hpath : (declaration.lowered models name).path = declaration.path := rfl
  refine hwarnings.congr fun fault => ?_
  cases fault <;> simp [operationFaults, bodyFaults, baseName, hpath]

theorem reports_operationWarnings (models taken : List String)
    (declared : List Declaration) :
    Reports (operationWarnings models taken declared) fun fault =>
      (List.zipWith (operationFaults · · fault) declared
        (lowerFrom models taken declared)).sum := by
  apply Reports.flatten_zipWith
  apply (forall₂_lowerFrom models taken declared).imp
  rintro declaration _ ⟨name, rfl⟩
  exact declaration.reports_warnings models name

theorem reports_operationsOfPaths (document : ApiDocument) :
    Reports
      (operationsOfPaths (modelNames (readableSchemas document.schemas)) []
        document.paths.toList).warnings (faultsUnderPaths document) := by
  have hitems :=
    Reports.flatMap fun entry (_ : entry ∈ document.paths.toList) =>
    reports_itemWarnings (modelNames (readableSchemas document.schemas)) entry
  have hoperations :=
    reports_operationWarnings (modelNames (readableSchemas document.schemas)) []
      (declarations document)
  refine ((hitems.append hoperations).of_perm
    (perm_warnings_operationsOfPaths _ _ _)).congr fun fault => ?_
  simp only [faultsUnderPaths, operations_ofDocument, add_comm]

theorem warnings_withoutPaths (document : ApiDocument) :
    (ofDocument document).warnings =
      (ofDocument (withoutPaths document)).warnings ++
        (operationsOfPaths (modelNames (readableSchemas document.schemas)) []
          document.paths.toList).warnings := by
  have hwithout : (ofDocument (withoutPaths document)).warnings =
      unreadableSchemaWarnings document.schemas ++
        (readableSchemas document.schemas).flatMap
          (modelWarnings (modelNames (readableSchemas document.schemas))) ++
        [] := rfl
  rw [hwithout, List.append_nil]
  rfl

/-- Each declaration has its operation, and what the paths of a document add to
the warnings is one warning for each fault under the paths, as many of each kind
as there are faults of that kind. -/
theorem paths_are_accounted_for (document : ApiDocument) :
    (ofDocument document).operations.length = (declarations document).length ∧
      ∃ added, (ofDocument document).warnings =
          (ofDocument (withoutPaths document)).warnings ++ added ∧
        added.length = (PathFault.all.map (faultsUnderPaths document)).sum ∧
        ∀ fault, added.countP (·.cause.pathFault? == some fault) =
          faultsUnderPaths document fault := by
  have hreports := reports_operationsOfPaths document
  refine ⟨?_, _, warnings_withoutPaths document, hreports.length_eq,
    hreports.count⟩
  rw [operations_ofDocument, length_lowerFrom]

end Api
end ApiClientGen

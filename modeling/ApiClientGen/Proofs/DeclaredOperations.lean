import ApiClientGen.Api.OfDocument
import ApiClientGen.Proofs.FreshNames
import ApiClientGen.Proofs.ShapeAcceptance
import Mathlib.Data.List.Forall2

/-!
# Operations in the order of their declarations

The operations of an API are found by two nested recursions that pass over some
keys and carry the names given so far.  Here the declarations are listed first,
without any names, and the operations are shown to be that list, lowered from
left to right.  What holds of the operations of a document is then proved by one
induction on the list of declarations.
-/

namespace ApiClientGen
namespace Api

open Document (ApiDocument OperationObject PathItem)
open Json (Value)

/-! ## Declarations -/

def HttpMethod.all : List HttpMethod :=
  [.get, .post, .put, .delete, .patch, .options, .head, .trace]

/-- The method whose verb is the given key, up to the case of the letters `A` to
`Z`. -/
def HttpMethod.named? (key : String) : Option HttpMethod :=
  HttpMethod.all.find? fun method =>
    Text.asciiLower method.verb.toList == Text.asciiLower key.toList

/-- An operation as a document declares it: the path with its item, the key in
the item, the method that the key names and the operation object under the
key. -/
structure Declaration where
  path : String
  item : PathItem
  key : String
  method : HttpMethod
  object : OperationObject

/-- The declaration under a key of a path item, if the key names a method and
the value can be read. -/
def Declaration.ofEntry? (path : String) (item : PathItem)
    (entry : String × Value) : Option Declaration :=
  match HttpMethod.named? entry.1, OperationObject.ofJson entry.2 with
  | some method, .ok object => some ⟨path, item, entry.1, method, object⟩
  | _, _ => none

/-- The declarations of a list of paths: path by path, and key by key within a
path. -/
def declarationsOfPaths (paths : List (String × PathItem)) : List Declaration :=
  paths.flatMap fun entry =>
    entry.2.entries.toList.filterMap (Declaration.ofEntry? entry.1 entry.2)

/-- The declarations of a document, in document order. -/
def declarations (document : ApiDocument) : List Declaration :=
  declarationsOfPaths document.paths.toList

/-- The words that are compared are the verbs in lower case. -/
theorem HttpMethod.ofKey?_eq_named? (key : String) :
    HttpMethod.ofKey? key = HttpMethod.named? key := by
  have hverb :
      ∀ {word : String}, String.ofList (Text.asciiLower key.toList) = word →
        Text.asciiLower key.toList = word.toList := by
    intro word hword
    rw [← hword, String.toList_ofList]
  unfold HttpMethod.ofKey?
  split
  case h_9 hget hpost hput hdelete hpatch hoptions hhead htrace =>
    symm
    rw [HttpMethod.named?, List.find?_eq_none]
    intro method _ hsame
    have hkey : String.ofList (Text.asciiLower key.toList) =
        String.ofList (Text.asciiLower method.verb.toList) := by
      rw [← beq_iff_eq.mp hsame]
    cases method
    · exact hget hkey
    · exact hpost hkey
    · exact hput hkey
    · exact hdelete hkey
    · exact hpatch hkey
    · exact hoptions hkey
    · exact hhead hkey
    · exact htrace hkey
  all_goals
    rename_i hword
    rw [HttpMethod.named?, hverb hword]
    decide

/-! ## Lowering one declaration after the other -/

namespace Declaration

def location (declaration : Declaration) : String :=
  "paths." ++ declaration.path ++ "." ++ declaration.key

/-- The name that an operation gets if it is free. -/
def baseName (declaration : Declaration) : String :=
  Naming.operationName declaration.path declaration.key

def lowered (models : List String) (declaration : Declaration) (name : String) :
    Operation :=
  (operationOf models declaration.location declaration.path
    (sharedParameters models declaration.path declaration.item).result name
    declaration.method
    declaration.object).result

end Declaration

/-- The operations of declarations, given the names that earlier operations
have. -/
def lowerFrom (models taken : List String) : List Declaration → List Operation
  | [] => []
  | declaration :: rest =>
    let name := freshName taken declaration.baseName
    declaration.lowered models name :: lowerFrom models (taken ++ [name]) rest

theorem lowerFrom_append (models taken : List String)
    (front back : List Declaration) :
    lowerFrom models taken (front ++ back) =
      lowerFrom models taken front ++
        lowerFrom models (taken ++ (lowerFrom models taken front).map (·.name))
          back := by
  induction front generalizing taken with
  | nil => simp [lowerFrom]
  | cons declaration front ih =>
      simp only [List.cons_append, lowerFrom, ih, List.map_cons,
        List.append_assoc]
      rfl

/-- A key of a path is an operation exactly if it declares one. -/
theorem readPathEntry_cases (path : String) (item : PathItem)
    (entry : String × Value) :
    (∃ method object, readPathEntry path entry = .operation method object ∧
      Declaration.ofEntry? path item entry =
        some ⟨path, item, entry.1, method, object⟩) ∨
      (∃ warnings, readPathEntry path entry = .skipped warnings ∧
        Declaration.ofEntry? path item entry = none) := by
  cases hmethod : HttpMethod.named? entry.1 with
  | none =>
      right
      simp [readPathEntry, Declaration.ofEntry?,
        HttpMethod.ofKey?_eq_named?, hmethod]
  | some method =>
      cases hobject : OperationObject.ofJson entry.2 with
      | error error =>
          right
          simp [readPathEntry, Declaration.ofEntry?,
            HttpMethod.ofKey?_eq_named?, hmethod, hobject]
      | ok object =>
          left
          simp [readPathEntry, Declaration.ofEntry?,
            HttpMethod.ofKey?_eq_named?, hmethod, hobject]

theorem operationsOfEntries_result (models taken : List String) (path : String)
    (item : PathItem) (entries : List (String × Value)) :
    (operationsOfEntries models path
      (sharedParameters models path item).result taken entries).result =
      lowerFrom models taken
        (entries.filterMap (Declaration.ofEntry? path item)) := by
  induction entries generalizing taken with
  | nil => rfl
  | cons entry rest ih =>
      rcases readPathEntry_cases path item entry with
        ⟨method, object, hread, hentry⟩ | ⟨warnings, hread, hentry⟩
      · rw [List.filterMap_cons_some hentry, operationsOfEntries, hread]
        simp only [lowerFrom, ih]
        rfl
      · rw [List.filterMap_cons_none hentry, operationsOfEntries, hread]
        exact ih taken

theorem operationsOfPaths_result (models taken : List String)
    (paths : List (String × PathItem)) :
    (operationsOfPaths models taken paths).result =
      lowerFrom models taken (declarationsOfPaths paths) := by
  induction paths generalizing taken with
  | nil => rfl
  | cons entry rest ih =>
      obtain ⟨path, item⟩ := entry
      rw [declarationsOfPaths, List.flatMap_cons, lowerFrom_append,
        ← declarationsOfPaths, ← ih]
      simp only [operationsOfPaths, operationsOfEntries_result]

/-- The operations of a document are its declarations, lowered from left to
right. -/
theorem operations_ofDocument (document : ApiDocument) :
    (ofDocument document).operations =
      lowerFrom (modelNames (readableSchemas document.schemas)) []
        (declarations document) :=
  operationsOfPaths_result _ _ _

/-! ## What the lowering of a list of declarations keeps -/

@[simp]
theorem Declaration.lowered_name (models : List String)
    (declaration : Declaration) (name : String) :
    (declaration.lowered models name).name = name :=
  rfl

theorem map_path_method_lowerFrom (models taken : List String)
    (declared : List Declaration) :
    (lowerFrom models taken declared).map
      (fun operation => (operation.path, operation.method)) =
      declared.map fun declaration =>
        (declaration.path, declaration.method) := by
  induction declared generalizing taken with
  | nil => rfl
  | cons declaration rest ih =>
      rw [lowerFrom, List.map_cons, List.map_cons, ih]
      rfl

/-- The operation at a place is the declaration there, under the name that is
free among the names before it. -/
theorem getElem?_lowerFrom (models taken : List String)
    (declared : List Declaration) (i : ℕ) :
    (lowerFrom models taken declared)[i]? =
      declared[i]?.map fun declaration =>
        declaration.lowered models (freshName
          (taken ++ ((lowerFrom models taken declared).take i).map (·.name))
          declaration.baseName) := by
  induction declared generalizing taken i with
  | nil => simp [lowerFrom]
  | cons declaration rest ih =>
      cases i with
      | zero => simp [lowerFrom]
      | succ i => simp [lowerFrom, ih, List.append_assoc]

/-- Every declaration has its operation, one for one, under a name that is free
among some names. -/
theorem forall₂_lowered_freshName (models taken : List String)
    (declared : List Declaration) :
    List.Forall₂ (fun declaration operation =>
        ∃ taken, declaration.lowered models
          (freshName taken declaration.baseName) = operation)
      declared (lowerFrom models taken declared) := by
  induction declared generalizing taken with
  | nil => exact List.Forall₂.nil
  | cons declaration rest ih => exact List.Forall₂.cons ⟨taken, rfl⟩ (ih _)

theorem forall₂_lowerFrom (models taken : List String)
    (declared : List Declaration) :
    List.Forall₂ (fun declaration operation => ∃ name,
      declaration.lowered models name = operation)
      declared (lowerFrom models taken declared) := by
  apply (forall₂_lowered_freshName models taken declared).imp
  rintro declaration operation ⟨before, hlowered⟩
  exact ⟨_, hlowered⟩

/-- Names that are given one after the other stay distinct. -/
theorem nodup_names_lowerFrom {models taken : List String}
    (htaken : taken.Nodup) (declared : List Declaration) :
    (taken ++ (lowerFrom models taken declared).map (·.name)).Nodup := by
  induction declared generalizing taken with
  | nil => simpa [lowerFrom] using htaken
  | cons declaration rest ih =>
      have hnext := ih (nodup_append_freshName htaken declaration.baseName)
      simpa [lowerFrom] using hnext

/-! ## The operations of a document -/

theorem exists_lowered_of_mem_operations {document : ApiDocument}
    {operation : Operation}
    (hmem : operation ∈ (ofDocument document).operations) :
    ∃ declaration ∈ declarations document, ∃ name,
      declaration.lowered (modelNames (readableSchemas document.schemas)) name =
        operation := by
  rw [operations_ofDocument] at hmem
  exact exists_related_of_mem (forall₂_lowerFrom _ _ _) hmem

/-- The operations of a document are its declarations in document order, no two
share a name, and each has the name made from its path and its key, followed by
the least free number if an earlier operation has that name. -/
theorem operations_follow_declarations (document : ApiDocument) :
    (ofDocument document).operations.map
      (fun operation => (operation.path, operation.method)) =
      (declarations document).map
        (fun declaration => (declaration.path, declaration.method)) ∧
      ((ofDocument document).operations.map (·.name)).Nodup ∧
      ∀ i operation declaration,
        (ofDocument document).operations[i]? = some operation →
          (declarations document)[i]? = some declaration →
          LeastName (((ofDocument document).operations.take i).map (·.name))
            (Naming.operationName declaration.path declaration.key)
            operation.name := by
  rw [operations_ofDocument]
  refine ⟨map_path_method_lowerFrom _ _ _, ?_, ?_⟩
  · simpa using nodup_names_lowerFrom List.nodup_nil (declarations document)
  · intro i operation declaration hoperation hdeclaration
    rw [getElem?_lowerFrom, hdeclaration, Option.map_some, Option.some.injEq]
      at hoperation
    rw [← hoperation]
    exact leastName_freshName _ _

end Api
end ApiClientGen

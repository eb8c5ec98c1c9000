import ApiClientGen.Proofs.DeclaredOperations

/-!
# From declared parameters to the parameters of an operation

The parameters of an operation are merged with those of its path and then
renamed.  Both steps are taken apart here: merging can be done on the declared
objects, before anything is lowered, and renaming changes nothing but the names.
So the parameters of an operation stand in the order of the declared objects
that are in force, each with the location and the type of its object.
-/

namespace ApiClientGen
namespace Api

open Document (ParameterObject RefOr)

/-! ## Merging by a key -/

section MergeByKey

variable {α β κ : Type} [BEq κ]

/-- Puts an item in place of the first one with the same key, or at the end. -/
def putByKey (key : α → κ) (item : α) : List α → List α
  | [] => [item]
  | other :: rest =>
    if key other == key item then item :: rest
    else other :: putByKey key item rest

def mergeByKey (key : α → κ) (shared own : List α) : List α :=
  own.foldl (fun merged item => putByKey key item merged) shared

theorem map_putByKey (f : α → β) (key : β → κ) (item : α) (items : List α) :
    (putByKey (key ∘ f) item items).map f =
      putByKey key (f item) (items.map f) := by
  induction items with
  | nil => rfl
  | cons other rest ih =>
      simp only [putByKey, List.map_cons, Function.comp_apply]
      split
      · rfl
      · rw [List.map_cons, ih]

/-- A map that keeps the keys can be done before or after merging. -/
theorem map_mergeByKey (f : α → β) (key : β → κ) (shared own : List α) :
    (mergeByKey (key ∘ f) shared own).map f =
      mergeByKey key (shared.map f) (own.map f) := by
  induction own generalizing shared with
  | nil => rfl
  | cons item rest ih =>
      have hrest := ih (putByKey (key ∘ f) item shared)
      rwa [map_putByKey] at hrest

end MergeByKey

/-- What identifies a parameter among those of an operation. -/
def Parameter.key (parameter : Parameter) : String × Option Location :=
  (parameter.originalName, parameter.location)

theorem overrideParameter_eq_putByKey (parameter : Parameter)
    (parameters : List Parameter) :
    overrideParameter parameter parameters =
      putByKey Parameter.key parameter parameters := by
  induction parameters with
  | nil => rfl
  | cons other rest ih =>
      rw [overrideParameter, putByKey, ih]
      rfl

theorem mergeParameters_eq_mergeByKey (shared own : List Parameter) :
    mergeParameters shared own = mergeByKey Parameter.key shared own := by
  simp only [mergeParameters, mergeByKey, overrideParameter_eq_putByKey]

/-! ## The declared objects -/

/-- The nodes of a list that are given in place. -/
def inlineNodes {α : Type} (entries : List (RefOr α)) : List α :=
  entries.filterMap fun
    | .reference _ => none
    | .inline node => some node

theorem inlineParameters_eq_map (models : List String)
    (entries : List (RefOr ParameterObject)) :
    inlineParameters models entries =
      (inlineNodes entries).map (parameterOf models) := by
  rw [inlineParameters, inlineNodes, List.map_filterMap]
  congr 1
  funext entry
  cases entry <;> rfl

namespace Declaration

/-- The parameter objects given in place for all operations of the path. -/
def sharedObjects (declaration : Declaration) : List ParameterObject :=
  match (declaration.item.entries.get? "parameters").map
      (Document.listOf Document.parameterOrRef) with
  | some (.ok entries) => inlineNodes entries
  | _ => []

/-- The parameter objects given in place for the operation itself. -/
def ownObjects (declaration : Declaration) : List ParameterObject :=
  inlineNodes (declaration.object.parameters.getD [])

/-- The parameter objects in force: those of the path, overridden by those of
the operation with the same name and the same location. -/
def parameterObjects (declaration : Declaration) : List ParameterObject :=
  mergeByKey (fun object => (object.name, object.location.map Location.ofName))
    declaration.sharedObjects declaration.ownObjects

theorem sharedParameters_eq_map (models : List String)
    (declaration : Declaration) :
    (sharedParameters models declaration.path declaration.item).result =
      declaration.sharedObjects.map (parameterOf models) := by
  unfold sharedParameters sharedObjects
  cases declaration.item.entries.get? "parameters" with
  | none => rfl
  | some value =>
      cases hentries : Document.listOf Document.parameterOrRef value with
      | ok entries => simp [hentries, inlineParameters_eq_map]
      | error error => simp [hentries]

/-- Merging the lowered parameters is lowering the merged objects. -/
theorem mergeParameters_eq_map (models : List String)
    (declaration : Declaration) :
    mergeParameters
      (sharedParameters models declaration.path declaration.item).result
      (inlineParameters models (declaration.object.parameters.getD [])) =
      declaration.parameterObjects.map (parameterOf models) := by
  rw [sharedParameters_eq_map, inlineParameters_eq_map,
    mergeParameters_eq_mergeByKey, ← map_mergeByKey]
  rfl

end Declaration

/-! ## Renaming -/

/-- A parameter before and after renaming: it keeps its name or gets a number
behind it, and all else stays. -/
structure Renamed (before after : Parameter) : Prop where
  name : after.name = before.name ∨ ∃ n, after.name = numbered before.name n
  rest : after = { before with name := after.name }

theorem forall₂_renamed (location : String) (taken : List String)
    (parameters : List Parameter) :
    List.Forall₂ Renamed parameters
      (renameParameters location taken parameters).result := by
  induction parameters generalizing taken with
  | nil => exact List.Forall₂.nil
  | cons parameter rest ih =>
      apply List.Forall₂.cons
      · exact ⟨(leastName_freshName taken parameter.name).eq_or_numbered, rfl⟩
      · exact ih _

theorem nodup_names_renameParameters (location : String) {taken : List String}
    (htaken : taken.Nodup) (parameters : List Parameter) :
    (taken ++ (renameParameters location taken parameters).result.map
      (·.name)).Nodup := by
  induction parameters generalizing taken with
  | nil => simpa [renameParameters] using htaken
  | cons parameter rest ih =>
      have hnext := ih (nodup_append_freshName htaken parameter.name)
      simpa [renameParameters] using hnext

/-! ## The parameters of an operation -/

namespace Declaration

theorem lowered_parameters (models : List String) (declaration : Declaration)
    (name : String) :
    (declaration.lowered models name).parameters =
      (renameParameters declaration.location
        (reservedNames (declaration.lowered models name).body)
        (declaration.parameterObjects.map (parameterOf models))).result := by
  rw [← mergeParameters_eq_map]
  rfl

/-- The parameters of an operation stand for the declared objects in force, one
for one. -/
theorem forall₂_parameterObjects (models : List String)
    (declaration : Declaration) (name : String) :
    List.Forall₂
      (fun object parameter => Renamed (parameterOf models object) parameter)
      declaration.parameterObjects
      (declaration.lowered models name).parameters := by
  rw [lowered_parameters, ← List.forall₂_map_left_iff]
  exact forall₂_renamed _ _ _

theorem exists_renamed_of_mem {models : List String} {declaration : Declaration}
    {name : String} {parameter : Parameter}
    (hmem : parameter ∈ (declaration.lowered models name).parameters) :
    ∃ object ∈ declaration.parameterObjects,
      Renamed (parameterOf models object) parameter :=
  exists_related_of_mem (declaration.forall₂_parameterObjects models name) hmem

end Declaration

theorem nodup_reservedNames (body : Option Body) :
    (reservedNames body).Nodup := by
  unfold reservedNames
  split <;> decide

/-- The names of the parameters of an operation are distinct from each other and
from the names that are reserved. -/
theorem Declaration.nodup_parameter_names (models : List String)
    (declaration : Declaration) (name : String) :
    (reservedNames (declaration.lowered models name).body ++
      (declaration.lowered models name).parameters.map (·.name)).Nodup := by
  rw [lowered_parameters]
  exact nodup_names_renameParameters _ (nodup_reservedNames _) _

end Api
end ApiClientGen

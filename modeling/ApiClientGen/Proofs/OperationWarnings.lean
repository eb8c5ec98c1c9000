import ApiClientGen.Proofs.SchemaAccounting
import ApiClientGen.Proofs.TextPieces

/-!
# Warnings at the place of an operation

A warning tells where it belongs by a text.  The texts of two operations differ,
since the keys of a path that are verbs have no dots and the path can therefore
be read off in front of the last one.  So the warnings about the placeholders of
one operation can be counted among all warnings of a document.
-/

namespace ApiClientGen
namespace Api

open Document (ApiDocument PathItem)
open Json (Value)

/-! ## The places of operations -/

/-- What stands in front of the last `c` and behind it can be told from the
whole list. -/
theorem append_cons_inj {α : Type} {c : α} {front other back rest : List α}
    (hback : c ∉ back) (hrest : c ∉ rest)
    (heq : front ++ c :: back = other ++ c :: rest) :
    front = other ∧ back = rest := by
  rcases Text.append_cons_cases heq with
    hsame | ⟨between, -, rfl⟩ | ⟨between, -, rfl⟩
  · exact hsame
  · simp at hback
  · simp at hrest

def entryLocation (path key : String) : String :=
  "paths." ++ path ++ "." ++ key

/-- The path and the key can be read off the place of an entry if the key has no
dots. -/
theorem entryLocation_inj {path other key otherKey : String}
    (hkey : '.' ∉ key.toList) (hother : '.' ∉ otherKey.toList)
    (heq : entryLocation path key = entryLocation other otherKey) :
    path = other ∧ key = otherKey := by
  have htext : ∀ path key : String, (entryLocation path key).toList =
      ("paths.".toList ++ path.toList) ++ '.' :: key.toList := by
    intro path key
    rw [entryLocation, String.toList_append, String.toList_append,
      String.toList_append, List.append_assoc]
    rfl
  have hsame := htext path key
  rw [heq, htext other otherKey] at hsame
  obtain ⟨hpaths, hkeys⟩ := append_cons_inj hother hkey hsame
  exact ⟨(String.toList_inj.mp (List.append_cancel_left hpaths)).symm,
    (String.toList_inj.mp hkeys).symm⟩

theorem not_mem_dot_of_named? {key : String} {method : HttpMethod}
    (hnamed : HttpMethod.named? key = some method) : '.' ∉ key.toList := by
  have hverbs :
      ∀ method : HttpMethod, '.' ∉ Text.asciiLower method.verb.toList := by
    intro method
    cases method <;> decide
  have hsame := List.find?_some hnamed
  rw [beq_iff_eq] at hsame
  intro hdot
  apply hverbs method
  rw [hsame]
  exact List.mem_map_of_mem hdot

namespace Declaration

theorem of_ofEntry? {path : String} {item : PathItem} {entry : String × Value}
    {declaration : Declaration}
    (hentry : ofEntry? path item entry = some declaration) :
    declaration.path = path ∧ declaration.key = entry.1 ∧
      '.' ∉ declaration.key.toList := by
  unfold ofEntry? at hentry
  split at hentry
  · rename_i method object hmethod hobject
    cases hentry
    exact ⟨rfl, rfl, not_mem_dot_of_named? hmethod⟩
  · cases hentry

/-- The path and the key can be read off the place of a declaration, since no
verb has a dot. -/
theorem location_inj {declaration other : Declaration}
    (hkey : '.' ∉ declaration.key.toList) (hother : '.' ∉ other.key.toList)
    (heq : declaration.location = other.location) :
    declaration.path = other.path ∧ declaration.key = other.key :=
  entryLocation_inj hkey hother heq

end Declaration

theorem nodup_locations (document : ApiDocument) :
    ((declarations document).map Declaration.location).Nodup := by
  rw [List.Nodup, List.pairwise_map, declarations, declarationsOfPaths,
    List.pairwise_flatMap]
  constructor
  · intro entry _
    have hkeys : entry.2.entries.toList.Pairwise fun first second =>
        first.1 ≠ second.1 :=
      List.pairwise_map.mp entry.2.entries.distinct
    apply hkeys.filterMap
    intro first second hne declaration hfirst other hsecond heq
    obtain ⟨-, hkey, hdot⟩ := Declaration.of_ofEntry? hfirst
    obtain ⟨-, hother, hotherDot⟩ := Declaration.of_ofEntry? hsecond
    have hsame := (Declaration.location_inj hdot hotherDot heq).2
    rw [hkey, hother] at hsame
    exact hne hsame
  · have hpaths : document.paths.toList.Pairwise fun first second =>
        first.1 ≠ second.1 :=
      List.pairwise_map.mp document.paths.distinct
    apply hpaths.imp
    intro first second hne declaration hfirst other hsecond heq
    obtain ⟨_, -, hfirst⟩ := List.mem_filterMap.mp hfirst
    obtain ⟨_, -, hsecond⟩ := List.mem_filterMap.mp hsecond
    obtain ⟨hpath, -, hdot⟩ := Declaration.of_ofEntry? hfirst
    obtain ⟨hother, -, hotherDot⟩ := Declaration.of_ofEntry? hsecond
    have hsame := (Declaration.location_inj hdot hotherDot heq).1
    rw [hpath, hother] at hsame
    exact hne hsame

/-! ## Placeholders without a parameter -/

/-- Whether a warning is about a placeholder without a parameter at the given
place. -/
def Warning.unnamedAt (location : String) (warning : Warning) : Bool :=
  warning.location == location &&
    warning.cause.pathFault? == some .unnamedPlaceholder

/-- A count of warnings with one fault leaves out all warnings without it. -/
theorem countP_eq_zero_of_pathFault?_ne {fault : PathFault}
    {test : Warning → Bool}
    (htest : ∀ warning, test warning = true →
      warning.cause.pathFault? = some fault)
    {warnings : List Warning}
    (hwarnings : ∀ warning ∈ warnings,
      warning.cause.pathFault? ≠ some fault) :
    warnings.countP test = 0 := by
  rw [List.countP_eq_zero]
  intro warning hmem hcounted
  exact hwarnings warning hmem (htest warning hcounted)

section UnnamedPlaceholders

variable (models : List String) (declaration : Declaration) (name : String)

/-- Of the warnings about an operation only the last ones are about
placeholders, and they are placed at the operation itself. -/
theorem Declaration.location_of_mem_warnings {warning : Warning}
    (hmem :
      warning ∈ declaration.warnings models (declaration.lowered models name))
    (hfault : warning.cause.pathFault? = some .unnamedPlaceholder) :
    warning.location = declaration.location := by
  unfold Declaration.warnings operationOf at hmem
  simp only [List.mem_append] at hmem
  rcases hmem with hrenamed | ((hreference | hbody) | hparameter) | hplaceholder
  · exact absurd hfault
      ((reports_renameWarnings ..).ne_of_eq_zero (by simp) hrenamed)
  · exact absurd hfault ((reports_parameterReferenceWarnings ..).ne_of_eq_zero
      (by simp) hreference)
  · exact absurd hfault ((reports_bodyOf ..).ne_of_eq_zero rfl hbody)
  · rw [declaration.mergeParameters_eq_map] at hparameter
    have hreports := reports_renameParameters declaration.location
      (reservedNames (declaration.lowered models name).body)
      (declaration.name_of_mem_merged models)
    exact absurd hfault (hreports.ne_of_eq_zero (by simp) hparameter)
  · obtain ⟨placeholder, -, rfl⟩ := List.mem_map.mp hplaceholder
    rfl

theorem Declaration.countP_unnamedAt_of_ne {location : String}
    (hne : declaration.location ≠ location) :
    (declaration.warnings models (declaration.lowered models name)).countP
      (Warning.unnamedAt location) = 0 := by
  rw [List.countP_eq_zero]
  intro warning hmem hunnamed
  rw [Warning.unnamedAt, Bool.and_eq_true, beq_iff_eq, beq_iff_eq] at hunnamed
  exact hne ((declaration.location_of_mem_warnings models name hmem
    hunnamed.2).symm.trans hunnamed.1)

theorem Declaration.countP_unnamedAt_self :
    (declaration.warnings models (declaration.lowered models name)).countP
      (Warning.unnamedAt declaration.location) =
      operationFaults declaration (declaration.lowered models name)
        .unnamedPlaceholder := by
  rw [← (declaration.reports_warnings models name).count]
  apply List.countP_congr
  intro warning hmem
  rw [Warning.unnamedAt, Bool.and_eq_true, beq_iff_eq, beq_iff_eq]
  exact ⟨And.right, fun hfault =>
    ⟨declaration.location_of_mem_warnings models name hmem hfault, hfault⟩⟩

end UnnamedPlaceholders

theorem operationWarnings_eq_flatMap (models taken : List String)
    (declared : List Declaration) :
    operationWarnings models taken declared =
      (declared.zip (lowerFrom models taken declared)).flatMap
        fun pair => pair.1.warnings models pair.2 := by
  rw [operationWarnings, ← List.map_uncurry_zip_eq_zipWith, List.flatMap_def]
  rfl

theorem countP_unnamedAt_operationWarnings (models : List String)
    {declared : List Declaration}
    (hlocations : (declared.map Declaration.location).Nodup) :
    List.Forall₂
      (fun declaration operation =>
        (operationWarnings models [] declared).countP
          (Warning.unnamedAt declaration.location) =
          operationFaults declaration operation .unnamedPlaceholder)
      declared (lowerFrom models [] declared) := by
  have hlength := length_lowerFrom models [] declared
  obtain ⟨-, hlowered⟩ :=
    List.forall₂_iff_zip.mp (forall₂_lowerFrom models [] declared)
  rw [List.forall₂_iff_zip]
  refine ⟨hlength.symm, fun {declaration operation} hpair => ?_⟩
  have hkeys : ((declared.zip (lowerFrom models [] declared)).map
      fun pair => pair.1.location).Nodup := by
    have hlocation : (declared.zip (lowerFrom models [] declared)).map
        (fun pair => pair.1.location) = declared.map Declaration.location := by
      calc
        (declared.zip (lowerFrom models [] declared)).map
          (fun pair => pair.1.location) =
          ((declared.zip (lowerFrom models [] declared)).map Prod.fst).map
            Declaration.location := by
          rw [List.map_map]
          rfl
        _ = declared.map Declaration.location := by
          rw [List.map_fst_zip (Nat.le_of_eq hlength.symm)]
    rwa [hlocation]
  have hother :
      ∀ pair ∈ declared.zip (lowerFrom models [] declared), ∀ location,
        pair.1.location ≠ location →
          (pair.1.warnings models pair.2).countP (Warning.unnamedAt location) =
            0 := by
    rintro ⟨first, second⟩ hmem location hne
    obtain ⟨name, rfl⟩ := hlowered hmem
    exact first.countP_unnamedAt_of_ne models name hne
  obtain ⟨name, rfl⟩ := hlowered hpair
  rw [operationWarnings_eq_flatMap]
  exact (countP_flatMap_of_nodup hkeys hother hpair).trans
    (declaration.countP_unnamedAt_self models name)

/-- At the place of an operation there are as many warnings about placeholders
as its path has placeholders without a parameter. -/
theorem countP_unnamedAt_warnings (document : ApiDocument) :
    List.Forall₂
      (fun declaration operation =>
        (ofDocument document).warnings.countP
          (Warning.unnamedAt declaration.location) =
          operationFaults declaration operation .unnamedPlaceholder)
      (declarations document) (ofDocument document).operations := by
  rw [operations_ofDocument]
  apply (countP_unnamedAt_operationWarnings _ (nodup_locations document)).imp
  intro declaration operation hcount
  have htest : ∀ warning : Warning,
      warning.unnamedAt declaration.location = true →
        warning.cause.pathFault? = some .unnamedPlaceholder := by
    simp [Warning.unnamedAt]
  have hschemas : (ofDocument (withoutPaths document)).warnings.countP
      (Warning.unnamedAt declaration.location) = 0 := by
    apply countP_eq_zero_of_pathFault?_ne htest
    intro warning hmem
    simp [pathFault?_of_mem_withoutPaths hmem]
  have hitems : (document.paths.toList.flatMap
      (itemWarnings (modelNames (readableSchemas document.schemas)))).countP
      (Warning.unnamedAt declaration.location) = 0 := by
    apply countP_eq_zero_of_pathFault?_ne htest
    intro warning hmem
    obtain ⟨entry, -, hentry⟩ := List.mem_flatMap.mp hmem
    exact (reports_itemWarnings _ entry).ne_of_eq_zero
      (by simp [sharedFaults, keyFaults]) hentry
  rw [warnings_withoutPaths, List.countP_append, hschemas, Nat.zero_add,
    (perm_warnings_operationsOfPaths _ _ _).countP_eq, List.countP_append,
    hitems, Nat.zero_add]
  exact hcount

end Api
end ApiClientGen

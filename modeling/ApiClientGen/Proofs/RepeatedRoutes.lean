import ApiClientGen.Proofs.OperationNames
import ApiClientGen.Proofs.OperationWarnings

/-!
# Operations with the same path and the same method

The keys of a path are distinct as they are written, and a verb is known in
either case of letters.  So nothing keeps a document from declaring one method
of a path several times.  Here it is shown that this is the only way to it, and
that it never passes unnoticed: the words of the path and of the method make one
name, so every operation but the first has to be renamed, and each renaming is
reported.
-/

namespace ApiClientGen
namespace Api

open Document (ApiDocument)

/-! ## Routes -/

def Operation.route (operation : Operation) : String × HttpMethod :=
  (operation.path, operation.method)

def Declaration.route (declaration : Declaration) : String × HttpMethod :=
  (declaration.path, declaration.method)

/-- Two keys are the same up to the case of the letters `A` to `Z`. -/
def SameLetters (key other : String) : Prop :=
  Text.asciiLower key.toList = Text.asciiLower other.toList

instance (key other : String) : Decidable (SameLetters key other) :=
  inferInstanceAs (Decidable (_ = _))

theorem sameLetters_verb {key : String} {method : HttpMethod}
    (hkey : HttpMethod.named? key = some method) :
    SameLetters method.verb key := by
  have hsame := List.find?_some hkey
  exact beq_iff_eq.mp hsame

/-- Two keys name the same method exactly if they differ at most in the case of
their letters. -/
theorem named?_eq_iff_sameLetters {key other : String}
    {method otherMethod : HttpMethod}
    (hkey : HttpMethod.named? key = some method)
    (hother : HttpMethod.named? other = some otherMethod) :
    method = otherMethod ↔ SameLetters key other := by
  have hverbs : ∀ method otherMethod : HttpMethod,
      SameLetters method.verb otherMethod.verb → method = otherMethod := by
    intro method otherMethod
    cases method <;> cases otherMethod <;> decide
  have hfirst := sameLetters_verb hkey
  have hsecond := sameLetters_verb hother
  constructor
  · rintro rfl
    exact hfirst.symm.trans hsecond
  · intro hletters
    exact hverbs _ _ ((hfirst.trans hletters).trans hsecond.symm)

theorem map_route_lowerFrom (models taken : List String)
    (declared : List Declaration) :
    (lowerFrom models taken declared).map Operation.route =
      declared.map Declaration.route :=
  map_path_method_lowerFrom models taken declared

/-- The operation at a place and the declaration at that place have the same
route. -/
theorem exists_declaration_of_getElem? {document : ApiDocument} {i : ℕ}
    {operation : Operation}
    (hoperation : (ofDocument document).operations[i]? = some operation) :
    ∃ declaration, (declarations document)[i]? = some declaration ∧
      declaration.route = operation.route := by
  have hroutes : ((ofDocument document).operations.map Operation.route)[i]? =
      ((declarations document).map Declaration.route)[i]? := by
    rw [operations_ofDocument, map_route_lowerFrom]
  rw [List.getElem?_map, List.getElem?_map, hoperation, Option.map_some]
    at hroutes
  exact Option.map_eq_some_iff.mp hroutes.symm

/-- A declaration is known by its path and its key. -/
theorem Declaration.eq_of_key_eq {document : ApiDocument}
    {first second : Declaration} (hfirst : first ∈ declarations document)
    (hsecond : second ∈ declarations document)
    (hpath : first.path = second.path) (hkey : first.key = second.key) :
    first = second := by
  have hlocation : first.location = second.location := by
    rw [Declaration.location, Declaration.location, hpath, hkey]
  exact List.inj_on_of_nodup_map (nodup_locations document) hfirst
    hsecond hlocation

/-! ## Names on a repeated route -/

/-- The name that a declaration asks for depends on its route only. -/
theorem Declaration.baseName_eq_of_route_eq {document : ApiDocument}
    {first second : Declaration} (hfirst : first ∈ declarations document)
    (hsecond : second ∈ declarations document)
    (hroute : first.route = second.route) :
    first.baseName = second.baseName := by
  obtain ⟨hpath, hmethod⟩ := Prod.mk.inj hroute
  rw [Declaration.baseName, Declaration.baseName, Naming.operationName,
    Naming.operationName, titleWord_of_named? (Declaration.named?_key hfirst),
    titleWord_of_named? (Declaration.named?_key hsecond), hpath, hmethod]

/-- Behind a declaration the name that it asks for is taken, by its own
operation or by an earlier one. -/
theorem baseName_mem_names_lowerFrom (models : List String)
    {declared : List Declaration} {i j : ℕ} (hij : i < j)
    {declaration : Declaration} (hdeclared : declared[i]? = some declaration) :
    declaration.baseName ∈
      ((lowerFrom models [] declared).take j).map (·.name) := by
  by_cases hbefore : declaration.baseName ∈
    ((lowerFrom models [] declared).take i).map (·.name)
  · exact ((List.take_sublist_take_left hij.le).map _).subset hbefore
  · have hname := getElem?_lowerFrom models [] declared i
    rw [hdeclared, Option.map_some, List.nil_append,
      freshName_of_not_mem hbefore] at hname
    have hmem := List.mem_of_getElem? (List.getElem?_take_of_lt hij ▸ hname)
    exact List.mem_map_of_mem hmem

/-- A warning says that an operation could not get the name that is made from
its path and its method. -/
def RenamedIn (document : ApiDocument) (operation : Operation) : Prop :=
  ∃ declaration ∈ declarations document,
    declaration.route = operation.route ∧
      operation.name ≠ declaration.baseName ∧
      ⟨declaration.location, .renamed declaration.baseName operation.name⟩ ∈
        (ofDocument document).warnings

/-- The operation at a place is renamed, and the renaming is reported, if its
name was taken before. -/
theorem renamedIn_of_mem_names {document : ApiDocument} {j : ℕ}
    {declaration : Declaration} {operation : Operation}
    (hdeclared : (declarations document)[j]? = some declaration)
    (hoperation : (ofDocument document).operations[j]? = some operation)
    (htaken : declaration.baseName ∈
      ((ofDocument document).operations.take j).map (·.name)) :
    RenamedIn document operation := by
  rw [operations_ofDocument] at hoperation htaken
  have hlowered :=
    getElem?_lowerFrom (modelNames (readableSchemas document.schemas)) []
      (declarations document) j
  rw [hoperation, hdeclared, Option.map_some, Option.some.injEq] at hlowered
  have hname : operation.name ≠ declaration.baseName := by
    have hleast := leastName_freshName
      (((lowerFrom (modelNames (readableSchemas document.schemas)) []
        (declarations document)).take j).map (·.name)) declaration.baseName
    rw [hlowered, Declaration.lowered_name, List.nil_append, Ne, hleast.kept]
    exact not_not_intro htaken
  refine ⟨declaration, List.mem_of_getElem? hdeclared, by rw [hlowered]; rfl,
    hname, ?_⟩
  have hpair : (declaration, operation) ∈ (declarations document).zip
      (lowerFrom (modelNames (readableSchemas document.schemas)) []
        (declarations document)) := by
    refine List.mem_of_getElem? (i := j) ?_
    rw [List.getElem?_zip_eq_some]
    exact ⟨hdeclared, hoperation⟩
  rw [warnings_withoutPaths, List.mem_append,
    (perm_warnings_operationsOfPaths _ _ _).mem_iff, List.mem_append,
    operationWarnings_eq_flatMap]
  refine Or.inr (Or.inr (List.mem_flatMap.mpr ⟨_, hpair, ?_⟩))
  simp [Declaration.warnings, renameWarnings, hname]

/-! ## Routes of a document -/

/-- No two operations have the same path and the same method exactly if no path
has two keys with readable operations that differ only in the case of letters.
Wherever a route is repeated, the later operation is renamed with a warning. -/
theorem routes_repeat_only_by_letter_case (document : ApiDocument) :
    (((ofDocument document).operations.map Operation.route).Nodup ↔
      ∀ first ∈ declarations document, ∀ second ∈ declarations document,
        first.path = second.path → SameLetters first.key second.key →
          first.key = second.key) ∧
      (ofDocument document).operations.Pairwise fun first second =>
      first.route = second.route → RenamedIn document second := by
  constructor
  · have hdistinct : (declarations document).Nodup :=
      (nodup_locations document).of_map
    rw [operations_ofDocument, map_route_lowerFrom,
      List.nodup_map_iff_inj_on hdistinct]
    refine forall₂_congr fun first hfirst =>
      forall₂_congr fun second hsecond => ?_
    have hmethods := named?_eq_iff_sameLetters (Declaration.named?_key hfirst)
      (Declaration.named?_key hsecond)
    constructor
    · intro hsame hpath hletters
      rw [hsame (Prod.ext hpath (hmethods.mpr hletters))]
    · intro hkeys hroute
      obtain ⟨hpath, hmethod⟩ := Prod.mk.inj hroute
      exact Declaration.eq_of_key_eq hfirst hsecond hpath
        (hkeys hpath (hmethods.mp hmethod))
  · rw [List.pairwise_iff_getElem]
    intro i j hi hj hij hroute
    have hsecond := List.getElem?_eq_getElem hj
    obtain ⟨declaration, hdeclared, hdeclaration⟩ :=
      exists_declaration_of_getElem? (List.getElem?_eq_getElem hi)
    obtain ⟨other, hother, hotherRoute⟩ :=
      exists_declaration_of_getElem? hsecond
    have hbase : declaration.baseName = other.baseName :=
      Declaration.baseName_eq_of_route_eq (List.mem_of_getElem? hdeclared)
        (List.mem_of_getElem? hother)
        ((hdeclaration.trans hroute).trans hotherRoute.symm)
    have htaken := baseName_mem_names_lowerFrom
      (modelNames (readableSchemas document.schemas)) hij hdeclared
    rw [← operations_ofDocument, hbase] at htaken
    exact renamedIn_of_mem_names hother hsecond htaken

/-- A document with a path that has the same verb in small and in capital
letters. -/
def doubledVerbDocument : ApiDocument where
  openapi := none
  swagger := none
  info := ⟨"T", "1", none⟩
  components := none
  paths := OrderedMap.ofList
    [("/pets", ⟨OrderedMap.ofList [("get", .object []), ("GET", .object [])]⟩)]

/-- The second of its operations is reported as renamed. -/
theorem routes_repeat_only_by_letter_case_doubled :
    RenamedIn doubledVerbDocument (bareOperation "PetsGet2" "/pets") := by
  have hpairs := (routes_repeat_only_by_letter_case doubledVerbDocument).2
  have hoperations : (ofDocument doubledVerbDocument).operations =
      [bareOperation "PetsGet" "/pets", bareOperation "PetsGet2" "/pets"] := by
    decide +kernel
  rw [hoperations, List.pairwise_pair] at hpairs
  exact hpairs rfl

/-- Both keys become operations with the same path and the same method. -/
theorem doubled_verb_repeats_route :
    (ofDocument doubledVerbDocument).operations =
      [bareOperation "PetsGet" "/pets", bareOperation "PetsGet2" "/pets"] ∧
      ¬ ((ofDocument doubledVerbDocument).operations.map
        Operation.route).Nodup := by
  decide +kernel

end Api
end ApiClientGen

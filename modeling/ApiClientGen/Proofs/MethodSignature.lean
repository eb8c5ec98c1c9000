import ApiClientGen.ClientCode.ClientFile
import ApiClientGen.Proofs.NameCharacters
import ApiClientGen.Proofs.OperationParameters
import ApiClientGen.Proofs.PathLiteral

/-!
# Identifiers in the signature of a method

The identifier of a parameter goes through three steps: it is made from the name
in the document, it gets a number if it is taken, and it is marked if it is a
reserved word.  The first step keeps all characters out that could end a literal
or a hole, the second keeps the names apart, and the third cannot join two names
again because no name has a mark of its own.
-/

namespace ApiClientGen
namespace ClientCode

open Api (Declaration Operation Parameter Renamed numbered bodyParameterName
  ofDocument requestVariableName reservedNames)
open Naming (Domestic)

/-! ## Names that fit into holes -/

theorem domestic_numbered {base : String} (hbase : Domestic base.toList)
    (n : ℕ) :
    Domestic (numbered base n).toList := by
  rw [numbered, String.toList_append]
  apply hbase.append
  apply Naming.domestic_of_isAlphanumeric
  exact fun c hc => Text.isAlphanumeric_of_mem_toString hc

/-- Nothing that would break a hole is made from letters and numbers. -/
theorem isForeign_of_mem_holeBreakers :
    ∀ c ∈ holeBreakers, Naming.isForeign c = true :=
  List.all_eq_true.mp (by decide +kernel)

theorem FitsHole.of_domestic {name : String} (hne : name ≠ "")
    (hname : Domestic name.toList) :
    FitsHole name := by
  refine ⟨hne, fun c hc hbreaker => ?_⟩
  simpa [hname c hc] using isForeign_of_mem_holeBreakers c hbreaker

theorem domestic_of_renamed {models : List String}
    {object : Document.ParameterObject} {parameter : Parameter}
    (hrenamed : Renamed (Api.parameterOf models object) parameter) :
    Domestic parameter.name.toList := by
  have hdomestic : Domestic (Api.parameterOf models object).name.toList :=
    Naming.domestic_parameterIdentifier object.name
  rcases hrenamed.name with hkept | ⟨n, hnumbered⟩
  · rwa [hkept]
  · rw [hnumbered]
    exact domestic_numbered hdomestic n

theorem FitsHole.of_renamed {models : List String}
    {object : Document.ParameterObject} {parameter : Parameter}
    (hrenamed : Renamed (Api.parameterOf models object) parameter) :
    FitsHole parameter.name := by
  have hne : (Api.parameterOf models object).name ≠ "" :=
    Naming.parameterIdentifier_ne_empty object.name
  refine FitsHole.of_domestic ?_ (domestic_of_renamed hrenamed)
  rcases hrenamed.name with hkept | ⟨n, hnumbered⟩
  · rwa [hkept]
  · simp [hnumbered, numbered, hne]

theorem fitsHole_of_mem_parameters {models : List String}
    {declaration : Declaration} {name : String} {parameter : Parameter}
    (hmem : parameter ∈ (declaration.lowered models name).parameters) :
    FitsHole parameter.name := by
  obtain ⟨object, -, hrenamed⟩ := Declaration.exists_renamed_of_mem hmem
  exact FitsHole.of_renamed hrenamed

/-- The parameters of an operation can be told apart in holes. -/
theorem holeNames_lowered (models : List String) (declaration : Declaration)
    (name : String) :
    HoleNames (declaration.lowered models name).parameters where
  distinct := (declaration.nodup_parameter_names models name).of_append_right
  fits := fun _ hmem => fitsHole_of_mem_parameters hmem

/-! ## Reserved names -/

theorem identifier_not_mem_keywords (name : String) :
    identifier name ∉ keywords := by
  unfold identifier
  split
  · have hmark : ∀ word ∈ keywords, word.toList.head? ≠ some '@' := by
      decide +kernel
    intro hmem
    exact hmark _ hmem (by simp)
  · rename_i hplain
    simpa using hplain

/-- A parameter takes no reserved name, as these are no keywords and stand
without a mark. -/
theorem identifier_ne_of_mem_reservedNames {models : List String}
    {declaration : Declaration} {name : String} {parameter : Parameter}
    {reserved : String}
    (hmem : parameter ∈ (declaration.lowered models name).parameters)
    (hreserved :
      reserved ∈ reservedNames (declaration.lowered models name).body) :
    identifier parameter.name ≠ reserved := by
  have hplain : ∀ body, ∀ word ∈ reservedNames body,
      identifier word = word ∧ '@' ∉ word.toList := by
    intro body
    unfold reservedNames
    split <;> decide +kernel
  obtain ⟨hsame, hmark⟩ := hplain _ reserved hreserved
  have hne : parameter.name ≠ reserved := by
    rintro rfl
    have hdisjoint :=
      (List.nodup_append.mp (declaration.nodup_parameter_names models name)).2.2
    exact hdisjoint _ hreserved _ (List.mem_map_of_mem hmem) rfl
  intro heq
  rw [← hsame] at heq
  exact hne
    (eq_of_identifier_eq (fitsHole_of_mem_parameters hmem).not_mem_at hmark heq)

/-! ## The signature -/

/-- The types and the identifiers of the parameters of a method, the body
last. -/
def signature (operation : Operation) : List (Api.ApiType × String) :=
  operation.parameters.map
    (fun parameter => (parameter.type, identifier parameter.name)) ++
    operation.body.toList.map fun body => (body.type, bodyParameterName)

def signatureIdentifiers (operation : Operation) : List String :=
  (signature operation).map Prod.snd

theorem signatureText_eq_intercalate (operation : Operation) :
    signatureText operation =
      String.intercalate ", " ((signature operation).map fun entry =>
        typeName entry.1 ++ " " ++ entry.2) := by
  have hparameters : operation.parameters.map parameterText =
      operation.parameters.map fun p =>
        typeName p.type ++ " " ++ identifier p.name := rfl
  unfold signatureText signature
  rw [hparameters]
  cases operation.body with
  | none => simp [Function.comp_def]
  | some body => simp [Function.comp_def]

theorem signatureIdentifiers_eq (operation : Operation) :
    signatureIdentifiers operation =
      operation.parameters.map (fun parameter => identifier parameter.name) ++
        operation.body.toList.map fun _ => bodyParameterName := by
  simp [signatureIdentifiers, signature, Function.comp_def]

theorem mem_signatureIdentifiers {operation : Operation} {word : String} :
    word ∈ signatureIdentifiers operation ↔
      (∃ parameter ∈ operation.parameters, identifier parameter.name = word) ∨
        operation.body.isSome ∧ word = bodyParameterName := by
  rw [signatureIdentifiers_eq]
  cases operation.body with
  | none => simp
  | some body => simp

theorem nodup_signatureIdentifiers (models : List String)
    (declaration : Declaration) (name : String) :
    (signatureIdentifiers (declaration.lowered models name)).Nodup := by
  have hnames := holeNames_lowered models declaration name
  have hparameters : ((declaration.lowered models name).parameters.map
      fun parameter => identifier parameter.name).Nodup :=
    List.Nodup.map_on
      (fun p hp q hq heq => hnames.eq_of_identifier_eq hp hq heq)
      hnames.distinct.of_map
  rw [signatureIdentifiers_eq, List.nodup_append]
  refine ⟨hparameters, ?_, ?_⟩
  · cases (declaration.lowered models name).body <;> simp
  · intro word hword other hother
    obtain ⟨parameter, hmem, rfl⟩ := List.mem_map.mp hword
    obtain ⟨body, hbody, rfl⟩ := List.mem_map.mp hother
    apply identifier_ne_of_mem_reservedNames hmem
    simp [reservedNames, Option.mem_toList.mp hbody]

theorem requestVariableName_not_mem_signatureIdentifiers (models : List String)
    (declaration : Declaration) (name : String) :
    requestVariableName ∉
      signatureIdentifiers (declaration.lowered models name) := by
  intro hmem
  rcases mem_signatureIdentifiers.mp hmem with
    ⟨parameter, hparameter, heq⟩ | ⟨-, heq⟩
  · exact identifier_ne_of_mem_reservedNames hparameter
      (by simp [reservedNames]) heq
  · exact absurd heq (by decide)

theorem not_mem_keywords_of_mem_signatureIdentifiers {operation : Operation}
    {word : String} (hmem : word ∈ signatureIdentifiers operation) :
    word ∉ keywords := by
  rcases mem_signatureIdentifiers.mp hmem with ⟨parameter, -, rfl⟩ | ⟨-, rfl⟩
  · exact identifier_not_mem_keywords parameter.name
  · decide +kernel

/-- The signature of a method lists its types and identifiers in order.  The
identifiers are distinct, none is the name of the request or a bare reserved
word, and the name of each parameter can be written in a hole of the path. -/
theorem signature_has_no_clash (document : Document.ApiDocument)
    (operation : Operation)
    (hoperation : operation ∈ (ofDocument document).operations) :
    signatureText operation =
      String.intercalate ", "
        ((signature operation).map fun entry =>
          typeName entry.1 ++ " " ++ entry.2) ∧
      (signatureIdentifiers operation).Nodup ∧
      requestVariableName ∉ signatureIdentifiers operation ∧
      (∀ word ∈ signatureIdentifiers operation, word ∉ keywords) ∧
      ∀ parameter ∈ operation.parameters, FitsHole parameter.name := by
  obtain ⟨declaration, -, name, rfl⟩ :=
    Api.exists_lowered_of_mem_operations hoperation
  exact ⟨signatureText_eq_intercalate _, nodup_signatureIdentifiers _ _ _,
    requestVariableName_not_mem_signatureIdentifiers _ _ _,
    fun _ hmem => not_mem_keywords_of_mem_signatureIdentifiers hmem,
    fun _ hmem => fitsHole_of_mem_parameters hmem⟩

/-- An operation with a body whose parameters are named after the body, the
request, a reserved word, each other and nothing at all. -/
def clashingDocument : Document.ApiDocument where
  openapi := none
  swagger := none
  info := ⟨"Clashes", "1", none⟩
  components := none
  paths := OrderedMap.ofList [("/pets",
    ⟨OrderedMap.ofList [("post", .object [("parameters", .array
      (["request-body", "http_request", "class", "pet_id", "petId", "$"].map
        fun name => .object [("name", .string name), ("in", .string "query")])),
      ("requestBody",
        .object [("content", .object [("application/json", .object [])])])])]⟩)]

def clashingOperation : Operation where
  name := "PetsPost"
  method := .post
  path := "/pets"
  summary := none
  parameters :=
    [("requestBody2", "request-body"), ("httpRequest2", "http_request"),
      ("class", "class"), ("petId", "pet_id"), ("petId2", "petId"),
      ("unnamed", "$")].map
      fun names => ⟨names.1, names.2, some .query, .any⟩
  body := some ⟨.any, "application/json"⟩
  returnType := .any
  deprecated := false

theorem signature_has_no_clash_post :
    clashingOperation ∈ (ofDocument clashingDocument).operations ∧
      (signatureIdentifiers clashingOperation).Nodup ∧
      requestVariableName ∉ signatureIdentifiers clashingOperation ∧
      (∀ word ∈ signatureIdentifiers clashingOperation, word ∉ keywords) ∧
      ∀ parameter ∈ clashingOperation.parameters, FitsHole parameter.name := by
  have hmem : clashingOperation ∈ (ofDocument clashingDocument).operations := by
    decide +kernel
  exact ⟨hmem,
    (signature_has_no_clash clashingDocument clashingOperation hmem).2⟩

end ClientCode
end ApiClientGen

import ApiClientGen.Proofs.BareNames
import ApiClientGen.Proofs.FileList
import ApiClientGen.Proofs.SchemaWarnings

/-!
# Models without a file

A model that is named like the client, or like the base class if there is one,
finds its path taken and has no file.  Warnings are written before that is
known.  So what is reported about the schema of such a model are bad members and
properties only, as for every other model, and a model without them is lost in
silence.
-/

namespace ApiClientGen

namespace ClientCode

open Api (ApiInfo Model Operation ofDocument)

/-! ## Files with different lines -/

/-- The first line can be read off a text, and what is left is the text of the
other lines. -/
theorem eq_and_eq_of_sourceText_cons {line other : String}
    {rest others : List String} (hline : '\n' ∉ line.toList)
    (hother : '\n' ∉ other.toList)
    (heq : sourceText (line :: rest) = sourceText (other :: others)) :
    line = other ∧ sourceText rest = sourceText others := by
  have hcons (line : String) (rest : List String) :
      (sourceText (line :: rest)).toList =
        line.toList ++ '\n' :: (sourceText rest).toList := by
    simp [sourceText]
  have hchars := congrArg String.toList heq
  rw [hcons, hcons] at hchars
  obtain rfl : line = other :=
    String.toList_inj.mp (Api.eq_of_append_cons hline hother hchars)
  exact ⟨rfl,
    String.toList_inj.mp (List.cons.inj (List.append_cancel_left hchars)).2⟩

/-- Texts whose second lines differ are different. -/
theorem sourceText_ne_of_second {line other first : String}
    {rest others : List String} (hfirst : '\n' ∉ first.toList)
    (hline : '\n' ∉ line.toList) (hother : '\n' ∉ other.toList)
    (hne : line ≠ other) :
    sourceText (first :: line :: rest) ≠
      sourceText (first :: other :: others) := by
  intro heq
  obtain ⟨-, htail⟩ := eq_and_eq_of_sourceText_cons hfirst hfirst heq
  exact hne (eq_and_eq_of_sourceText_cons hline hother htail).1

theorem modelText_ne_clientText (model : Model) (info : ApiInfo)
    (operations : List Operation) :
    modelText model ≠ clientText info operations := by
  cases model with
  | enumeration model =>
      exact sourceText_ne_of_second (by decide) (by decide) (by decide)
        (by decide)
  | record model =>
      intro heq
      obtain ⟨-, htail⟩ :=
        eq_and_eq_of_sourceText_cons (by decide) (by decide) heq
      exact sourceText_ne_of_second (by decide) (by decide) (by decide)
        (by decide) htail

theorem modelText_ne_baseClientText (model : Model) :
    modelText model ≠ baseClientText := by
  cases model with
  | enumeration model =>
      exact sourceText_ne_of_second (by decide) (by decide) (by decide)
        (by decide)
  | record model =>
      exact sourceText_ne_of_second (by decide) (by decide) (by decide)
        (by decide)

/-- The file of a model is generated exactly if its name is not taken. -/
theorem modelFile_mem_sourceFiles_iff {document : Document.ApiDocument}
    {model : Model} (hmodel : model ∈ (ofDocument document).models)
    (withBaseClient : Bool) :
    modelFile model ∈ sourceFiles (ofDocument document) withBaseClient ↔
      model.name ∉ leadingNames (ofDocument document) withBaseClient := by
  have hnames : ((ofDocument document).models.map Model.name).Nodup := by
    rw [Api.map_name_models]
    exact Api.nodup_modelNames document
  have hclient : (ofDocument document).info.clientClassName ≠ "BaseApiClient" :=
    Naming.clientClassName_ne_baseApiClient document.info.title
      document.info.version
  have hclientFile : modelFile model ≠ clientFile (ofDocument document) := by
    intro heq
    exact modelText_ne_clientText model _ _ (congrArg SourceFile.content heq)
  have hbaseFile :
      modelFile model ∉ if withBaseClient then [baseClientFile] else [] := by
    intro hmem
    have heq : modelFile model = baseClientFile := by
      split at hmem
      · exact List.mem_singleton.mp hmem
      · cases hmem
    exact modelText_ne_baseClientText model (congrArg SourceFile.content heq)
  rw [sourceFiles_eq hnames hclient, List.mem_cons, List.mem_append,
    List.mem_map, or_iff_right hclientFile, or_iff_right hbaseFile]
  constructor
  · rintro ⟨other, hother, heq⟩
    have hname : other.name = model.name :=
      fileName_injective (congrArg SourceFile.path heq)
    rw [← hname]
    simpa using (List.mem_filter.mp hother).2
  · intro hfree
    exact ⟨model, List.mem_filter.mpr ⟨hmodel, by simpa using hfree⟩, rfl⟩

end ClientCode

namespace Api

open ClientCode (leadingNames modelFile sourceFiles)
open Document (ApiDocument SchemaObject)

/-! ## What is reported about a model -/

/-- The schema of a model is named once for each bad member or property, and
never for being skipped. -/
theorem countP_names_of_mem_models {document : ApiDocument} {model : Model}
    (hmodel : model ∈ (ofDocument document).models) :
    ∃ fields, (model.name, .object fields) ∈ document.schemas ∧
      (ofDocument document).warnings.countP (Warning.names model.name) =
        model.members.countP (!Naming.isIdentifier ·) +
          (recordProperties (model.name, .object fields)).countP
            (fun property => !(SchemaObject.ofJson property.2).isOk) ∧
      (ofDocument document).warnings.countP (Warning.skips model.name) = 0 := by
  obtain ⟨fields, hentry, hmade⟩ := exists_object_of_mem_models hmodel
  have hname := not_mem_dot_of_isIdentifier (isIdentifier_of_mem_models hmodel)
  have hnames := countP_warnings_of_names hentry hname fun _ hnamed => hnamed
  refine ⟨fields, hentry, ?_⟩
  cases outcome (modelNames (readableSchemas document.schemas))
    (model.name, .object fields) with
  | skipped _ _ _ hnone _ => simp [hnone] at hmade
  | modelled made hbecomes hmade' _ _ hlength =>
      obtain rfl : made = model := Option.some.inj (hmade'.symm.trans hmade)
      constructor
      · rw [hnames, ← hlength, List.countP_eq_length]
        exact fun warning hmem => (aboutSchema_of_mem_entryWarnings hmem).names
      · exact (countP_skips_warnings hentry).trans (if_pos hbecomes)

/-- A model has no file of its own exactly if its name is that of the client or,
if the base class is asked for, of the base class.  No warning says that its
schema is skipped.  The warnings that name the schema are one for each of its
members that is no identifier and one for each of its properties that is no
schema, so a model is lost in silence if it has none of these. -/
theorem lost_models_are_named_only_for_parts (document : ApiDocument)
    (withBaseClient : Bool) :
    ∀ model ∈ (ofDocument document).models,
      (modelFile model ∉ sourceFiles (ofDocument document) withBaseClient ↔
        model.name ∈ leadingNames (ofDocument document) withBaseClient) ∧
        ∃ fields, (model.name, .object fields) ∈ document.schemas ∧
          (ofDocument document).warnings.countP (Warning.names model.name) =
            model.members.countP (!Naming.isIdentifier ·) +
              (recordProperties (model.name, .object fields)).countP
                (fun property => !(SchemaObject.ofJson property.2).isOk) ∧
          (ofDocument document).warnings.countP (Warning.skips model.name) =
            0 := by
  intro model hmodel
  refine ⟨?_, countP_names_of_mem_models hmodel⟩
  rw [ClientCode.modelFile_mem_sourceFiles_iff hmodel, not_not]

/-- A document with an enumeration that is named like its client. -/
def clientNamedDocument : ApiDocument where
  openapi := none
  swagger := none
  info := ⟨"T", "1", none⟩
  paths := OrderedMap.empty
  components := some ⟨some (OrderedMap.ofList [("TV1HttpClient",
    .object [("enum", .array [.string "on", .string "off-line"])])])⟩

def clientNamedModel : Model :=
  .enumeration ⟨"TV1HttpClient", none, ["on", "off-line"]⟩

/-- The enumeration is lost with one warning about a member and none about the
loss. -/
theorem lost_models_are_named_only_for_parts_client :
    modelFile clientNamedModel ∉
      sourceFiles (ofDocument clientNamedDocument) false ∧
      (ofDocument clientNamedDocument).warnings.countP
        (Warning.names "TV1HttpClient") = 1 ∧
      (ofDocument clientNamedDocument).warnings.countP
        (Warning.skips "TV1HttpClient") = 0 := by
  obtain ⟨hlost, fields, hentry, hnames, hskips⟩ :=
    lost_models_are_named_only_for_parts clientNamedDocument false
      clientNamedModel (by decide +kernel)
  have hsame := List.inj_on_of_nodup_map
    (nodup_names_schemas clientNamedDocument) hentry (.head _) rfl
  obtain ⟨-, rfl⟩ : _ ∧ fields = _ := by simpa using hsame
  exact ⟨hlost.mpr (by decide +kernel),
    hnames.trans (by decide +kernel), hskips⟩

/-- A document with a record that is named like the base class. -/
def baseNamedDocument : ApiDocument where
  openapi := none
  swagger := none
  info := ⟨"T", "1", none⟩
  paths := OrderedMap.empty
  components := some ⟨some (OrderedMap.ofList [("BaseApiClient", .object
    [("properties",
      .object [("url", .object [("type", .string "string")])])])])⟩

def baseNamedModel : Model :=
  .record ⟨"BaseApiClient", none, [⟨"Url", "url", .string⟩]⟩

/-- With the base class the record is lost, and there are no warnings at all. -/
theorem base_named_model_is_lost_in_silence :
    baseNamedModel ∈ (ofDocument baseNamedDocument).models ∧
      modelFile baseNamedModel ∉
        sourceFiles (ofDocument baseNamedDocument) true ∧
      (ofDocument baseNamedDocument).warnings.length = 0 := by
  decide +kernel

end Api
end ApiClientGen

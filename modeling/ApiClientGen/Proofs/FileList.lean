import ApiClientGen.Proofs.GeneratedNames

/-!
# The list of generated files

A file is left out if an earlier one has its path.  Here it is shown which files
that are.  Models are named after distinct schemas, so a model can lose its
place only to the client or to the base class; and those two never compete for a
path, since the name of a client ends in a word in which the name of the base
class does not end.
-/

namespace ApiClientGen

namespace Naming

/-- No title and no version give the client the name of the base class, whose
last ten characters are another word. -/
theorem clientClassName_ne_baseApiClient (title version : String) :
    clientClassName title version ≠ "BaseApiClient" := by
  intro heq
  have hbase :
      "BaseApiClient".toList = "Bas".toList ++ "eApiClient".toList := by decide
  have htexts := congrArg String.toList heq
  rw [clientClassName, String.toList_append, hbase] at htexts
  have hending : "HttpClient".toList = "eApiClient".toList :=
    List.append_inj_right' htexts (by decide)
  exact absurd hending (by decide)

end Naming

namespace ClientCode

open Api (ApiModel Model)

theorem fileName_injective : Function.Injective fileName := by
  intro name other heq
  have htexts : (name ++ ".cs").toList = (other ++ ".cs").toList :=
    congrArg String.toList heq
  rw [String.toList_append, String.toList_append] at htexts
  exact String.toList_inj.mp (List.append_cancel_right htexts)

/-! ## Files that are left out -/

/-- If the paths of files are distinct, a file is left out only if its path was
taken before. -/
theorem keepFirst_of_nodup {files : List SourceFile}
    (hpaths : (files.map (·.path)).Nodup) (taken : List String) :
    keepFirst taken files = files.filter (·.path ∉ taken) := by
  induction files generalizing taken with
  | nil => rfl
  | cons file rest ih =>
      rw [List.map_cons, List.nodup_cons] at hpaths
      obtain ⟨hfresh, hrest⟩ := hpaths
      by_cases htaken : file.path ∈ taken
      · simp [keepFirst, htaken, ih hrest]
      · have hlater : ∀ other ∈ rest,
            decide (other.path ∉ file.path :: taken) =
              decide (other.path ∉ taken) := by
          intro other hother
          have hne : other.path ≠ file.path := by
            intro heq
            exact hfresh (List.mem_map.mpr ⟨other, hother, heq⟩)
          simp [hne]
        rw [keepFirst, if_neg (by simpa using htaken), ih hrest,
          List.filter_cons_of_pos (by simpa using htaken),
          List.filter_congr hlater]

theorem map_path_modelFile (models : List Model) :
    (models.map modelFile).map (·.path) =
      (models.map Model.name).map fileName := by
  rw [List.map_map, List.map_map]
  rfl

/-- Models with distinct names lose their files only to the names that are taken
before. -/
theorem keepFirst_modelFiles {models : List Model}
    (hnames : (models.map Model.name).Nodup) {taken names : List String}
    (htaken : ∀ path, path ∈ taken ↔ path ∈ names.map fileName) :
    keepFirst taken (models.map modelFile) =
      (models.filter (·.name ∉ names)).map modelFile := by
  have hpaths : ((models.map modelFile).map (·.path)).Nodup := by
    rw [map_path_modelFile]
    exact hnames.map fileName_injective
  rw [keepFirst_of_nodup hpaths, List.filter_map]
  congr 1
  apply List.filter_congr
  intro model _
  have hname : (modelFile model).path ∈ taken ↔ model.name ∈ names :=
    (htaken _).trans (List.mem_map_of_injective fileName_injective)
  rw [Function.comp_apply, decide_eq_decide, hname]

/-! ## The files of an API -/

/-- The names of the classes whose files come before those of the models: the
client, and the base class if it is asked for. -/
def leadingNames (api : ApiModel) (withBaseClient : Bool) : List String :=
  api.info.clientClassName :: if withBaseClient then ["BaseApiClient"] else []

/-- If the client is not named like the base class, both come first, and all
models follow that are not named like one of them. -/
theorem sourceFiles_eq {api : ApiModel}
    (hnames : (api.models.map Model.name).Nodup)
    (hclient : api.info.clientClassName ≠ "BaseApiClient")
    (withBaseClient : Bool) :
    sourceFiles api withBaseClient =
      clientFile api ::
        ((if withBaseClient then [baseClientFile] else []) ++
          (api.models.filter (·.name ∉ leadingNames api withBaseClient)).map
            modelFile) := by
  have hclientPath :
      (clientFile api).path = fileName api.info.clientClassName := rfl
  have hbasePath : baseClientFile.path = fileName "BaseApiClient" := by decide
  by_cases hbase : withBaseClient = true
  · have hdistinct : baseClientFile.path ≠ (clientFile api).path := by
      intro heq
      rw [hbasePath, hclientPath] at heq
      exact hclient (fileName_injective heq).symm
    have htaken : ∀ path, path ∈ [baseClientFile.path, (clientFile api).path] ↔
        path ∈ (leadingNames api withBaseClient).map fileName := by
      intro path
      simp [leadingNames, hbase, hclientPath, hbasePath, or_comm]
    have hmodels := keepFirst_modelFiles hnames htaken
    simpa [sourceFiles, candidateFiles, keepFirst, hbase, hdistinct]
      using hmodels
  · have htaken : ∀ path, path ∈ [(clientFile api).path] ↔
        path ∈ (leadingNames api withBaseClient).map fileName := by
      intro path
      simp [leadingNames, hbase, hclientPath]
    have hmodels := keepFirst_modelFiles hnames htaken
    simpa [sourceFiles, candidateFiles, keepFirst, hbase] using hmodels

/-- The generated files of a document are the client, the base class if it is
asked for, and the models in order except those that are named like one of these
two.  Each file is the one made for its own part of the API, no two files have
the same path, and the client never has that of the base class. -/
theorem file_list_is_exact (document : Document.ApiDocument)
    (withBaseClient : Bool) :
    let api := Api.ofDocument document
    let leading := leadingNames api withBaseClient
    sourceFiles api withBaseClient =
      clientFile api :: ((if withBaseClient then [baseClientFile] else []) ++
        (api.models.filter (·.name ∉ leading)).map modelFile) ∧
      (sourceFiles api withBaseClient).map (·.path) =
        (leading ++ (api.models.map Model.name).filter (· ∉ leading)).map
          fileName ∧
      ((sourceFiles api withBaseClient).map (·.path)).Nodup ∧
      (clientFile api).path ≠ baseClientFileName := by
  intro api leading
  have hnames : (api.models.map Model.name).Nodup := by
    rw [Api.map_name_models]
    exact Api.nodup_modelNames document
  have hclient : api.info.clientClassName ≠ "BaseApiClient" :=
    Naming.clientClassName_ne_baseApiClient document.info.title
      document.info.version
  have hbaseFile : baseClientFileName = fileName "BaseApiClient" := by decide
  have hfiles := sourceFiles_eq hnames hclient withBaseClient
  refine ⟨hfiles, ?_, nodup_paths_sourceFiles api withBaseClient, ?_⟩
  · have hleading : leading.map fileName = (clientFile api).path ::
        (if withBaseClient then [baseClientFile] else []).map (·.path) := by
      by_cases hbase : withBaseClient = true
      · simp [leading, leadingNames, hbase, clientFile, baseClientFile,
          hbaseFile]
      · simp [leading, leadingNames, hbase, clientFile]
    rw [hfiles, List.map_cons, List.map_append, map_path_modelFile,
      List.map_append, hleading, List.filter_map]
    rfl
  · intro heq
    rw [hbaseFile] at heq
    exact hclient (fileName_injective heq)

end ClientCode
end ApiClientGen

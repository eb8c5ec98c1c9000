import ApiClientGen.Command.Plan
import ApiClientGen.Proofs.PathWalk
import ApiClientGen.Proofs.References
import Mathlib.Data.List.Nodup

/-!
# Names of generated files

Titles, versions and the names of schemas come from outside and may hold any
characters.  Each passes a filter of its own before it becomes part of a file
name, and what is left behind every filter are characters of identifiers.  So
the names of files hold no slash and no line end, and they are all distinct.
-/

namespace ApiClientGen

/-! ## Characters of names -/

namespace Naming

theorem isIdentifierChar_of_mem_titlePart {title : List Char} {c : Char}
    (hc : c ∈ titlePart title) : isIdentifierChar c = true := by
  have hfilter (d : Char) (hd : d ∈ title.filter isIdentifierChar) :
      isIdentifierChar d = true :=
    (List.mem_filter.mp hd).2
  unfold titlePart at hc
  split at hc
  · cases hc
  · rename_i first rest hchars
    rw [hchars] at hfilter
    split at hc
    · rcases List.mem_cons.mp hc with rfl | hc
      · simp [isIdentifierChar]
      · exact hfilter c hc
    · exact hfilter c hc

theorem isIdentifierChar_of_mem_versionPart {version : List Char} {c : Char}
    (hc : c ∈ versionPart version) : isIdentifierChar c = true := by
  obtain ⟨d, -, rfl⟩ := List.mem_map.mp hc
  have hunderscore : isIdentifierChar '_' = true := rfl
  by_cases hd : isIdentifierChar d = true
  · rwa [if_pos hd]
  · rwa [if_neg hd]

theorem isIdentifierChar_of_mem_clientClassName {title version : String}
    {c : Char} (hc : c ∈ (clientClassName title version).toList) :
    isIdentifierChar c = true := by
  have hsuffix : ('V' :: "HttpClient".toList).all isIdentifierChar = true := by
    decide +kernel
  rw [List.all_eq_true] at hsuffix
  simp only [clientClassName, String.toList_append, String.toList_ofList,
    List.mem_append, List.mem_cons] at hc
  rcases hc with (hc | hc | hc) | hc
  · exact isIdentifierChar_of_mem_titlePart hc
  · exact hsuffix c (hc ▸ List.mem_cons_self)
  · exact isIdentifierChar_of_mem_versionPart hc
  · exact hsuffix c (List.mem_cons_of_mem _ hc)

/-- Whatever the title is, the directory is a name. -/
theorem normalName_outputDirName (title : String) :
    FileTree.NormalName (outputDirName title) := by
  apply FileTree.NormalName.of_length
  · simp only [outputDirName, String.toList_append, String.toList_ofList,
      List.mem_append]
    rintro (hfilter | hsuffix)
    · simp at hfilter
    · revert hsuffix
      decide
  · simp [outputDirName]

example : outputDirName "../../etc / passwd" = "....etcpasswdHttpClient" := by
  decide +kernel

end Naming

namespace ClientCode

/-! ## Files whose path is taken -/

theorem sublist_keepFirst (taken : List String) (files : List SourceFile) :
    (keepFirst taken files).Sublist files := by
  induction files generalizing taken with
  | nil => exact List.Sublist.slnil
  | cons file rest ih =>
      unfold keepFirst
      split
      · exact (ih taken).cons file
      · exact (ih _).cons_cons file

/-- Kept files have distinct paths, none of which was taken before. -/
theorem nodup_append_keepFirst {taken : List String} (htaken : taken.Nodup)
    (files : List SourceFile) :
    (taken ++ (keepFirst taken files).map (·.path)).Nodup := by
  induction files generalizing taken with
  | nil => simpa [keepFirst] using htaken
  | cons file rest ih =>
      by_cases hmem : file.path ∈ taken
      · simpa [keepFirst, hmem] using ih htaken
      · have hrest := ih (List.nodup_cons.mpr ⟨hmem, htaken⟩)
        have hperm : (file.path :: taken ++
            (keepFirst (file.path :: taken) rest).map (·.path)).Perm
            (taken ++ file.path ::
              (keepFirst (file.path :: taken) rest).map (·.path)) :=
          List.perm_middle.symm
        simpa [keepFirst, hmem] using hperm.nodup_iff.mp hrest

theorem nodup_paths_sourceFiles (api : Api.ApiModel) (withBaseClient : Bool) :
    ((sourceFiles api withBaseClient).map (·.path)).Nodup :=
  nodup_append_keepFirst List.nodup_nil (candidateFiles api withBaseClient)

/-- The client is the first candidate, so nothing has taken its path. -/
theorem clientFile_mem_sourceFiles (api : Api.ApiModel)
    (withBaseClient : Bool) :
    clientFile api ∈ sourceFiles api withBaseClient := by
  simp [sourceFiles, candidateFiles, keepFirst]

/-! ## Paths of files -/

/-- A path made of an identifier's characters and the ending of source files. -/
def IsSourceName (path : String) : Prop :=
  ∃ name : String,
    path = fileName name ∧ ∀ c ∈ name.toList, Naming.isIdentifierChar c = true

theorem IsSourceName.not_mem {path : String} (hpath : IsSourceName path)
    {c : Char} (hc : Naming.isIdentifierChar c = false)
    (hending : c ∉ ".cs".toList) : c ∉ path.toList := by
  obtain ⟨name, rfl, hname⟩ := hpath
  intro hmem
  rw [fileName, String.toList_append, List.mem_append] at hmem
  rcases hmem with hmem | hmem
  · simp [hname c hmem] at hc
  · exact hending hmem

theorem IsSourceName.normalName {path : String} (hpath : IsSourceName path) :
    FileTree.NormalName path := by
  apply FileTree.NormalName.of_length
  · exact hpath.not_mem (by decide +kernel) (by decide)
  · obtain ⟨name, rfl, -⟩ := hpath
    simp [fileName]

theorem isSourceName_of_mem_sourceFiles {document : Document.ApiDocument}
    {withBaseClient : Bool} {file : SourceFile}
    (hfile : file ∈ sourceFiles (Api.ofDocument document) withBaseClient) :
    IsSourceName file.path := by
  have hcandidate := (sublist_keepFirst [] _).subset hfile
  unfold candidateFiles at hcandidate
  rw [List.mem_cons, List.mem_append] at hcandidate
  rcases hcandidate with rfl | hbase | hfile
  · exact ⟨_, rfl,
      fun c hc => Naming.isIdentifierChar_of_mem_clientClassName hc⟩
  · have hfile : file = baseClientFile := by
      split at hbase
      · exact List.mem_singleton.mp hbase
      · cases hbase
    subst hfile
    have hname : "BaseApiClient".toList.all Naming.isIdentifierChar = true := by
      decide +kernel
    exact ⟨"BaseApiClient", by decide, List.all_eq_true.mp hname⟩
  · obtain ⟨model, hmodel, rfl⟩ := List.mem_map.mp hfile
    refine ⟨model.name, rfl, fun c hc => ?_⟩
    have hname := List.mem_map_of_mem (f := Api.Model.name) hmodel
    rw [Api.map_name_models] at hname
    exact Api.isIdentifierChar_of_mem_modelNames hname hc

end ClientCode

namespace Command

open ClientCode (SourceFile)

variable {settings : Settings} {source : String}
    {document : Document.ApiDocument}

theorem mem_filesToWrite {file : SourceFile}
    (hfile : file ∈ filesToWrite settings source (Api.ofDocument document)) :
    ClientCode.IsSourceName file.path ∨ file.path = readmeFileName := by
  rcases List.mem_append.mp hfile with hsource | hreadme
  · exact Or.inl (ClientCode.isSourceName_of_mem_sourceFiles hsource)
  · split at hreadme
    · rw [List.mem_singleton.mp hreadme]
      exact Or.inr rfl
    · cases hreadme

theorem normalName_readmeFileName : FileTree.NormalName readmeFileName := by
  apply FileTree.NormalName.of_length
  · decide
  · decide

theorem normalName_of_mem_filesToWrite {file : SourceFile}
    (hfile : file ∈ filesToWrite settings source (Api.ofDocument document)) :
    FileTree.NormalName file.path := by
  rcases mem_filesToWrite hfile with hsource | hreadme
  · exact hsource.normalName
  · rw [hreadme]
    exact normalName_readmeFileName

theorem isSourceName_ne_readmeFileName {path : String}
    (hpath : ClientCode.IsSourceName path) :
    path ≠ readmeFileName := by
  obtain ⟨name, rfl, -⟩ := hpath
  intro heq
  have hlast := congrArg (·.toList.getLast?) heq
  simp [ClientCode.fileName, readmeFileName] at hlast

theorem nodup_paths_filesToWrite (settings : Settings) (source : String)
    (document : Document.ApiDocument) :
    ((filesToWrite settings source (Api.ofDocument document)).map
      (·.path)).Nodup := by
  have hsources := ClientCode.nodup_paths_sourceFiles (Api.ofDocument document)
    settings.baseClient
  unfold filesToWrite
  split
  · rw [List.map_append, List.nodup_append]
    refine ⟨hsources, List.nodup_singleton _, ?_⟩
    rintro path hpath readme hreadme rfl
    obtain ⟨file, hfile, rfl⟩ := List.mem_map.mp hpath
    obtain hreadme : file.path = readmeFileName := List.mem_singleton.mp hreadme
    exact isSourceName_ne_readmeFileName
      (ClientCode.isSourceName_of_mem_sourceFiles hfile) hreadme
  · simpa using hsources

end Command
end ApiClientGen

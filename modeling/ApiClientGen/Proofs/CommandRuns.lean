import ApiClientGen.Proofs.OneLineTexts
import ApiClientGen.Proofs.OutputConfinement

/-!
# Dry runs and real runs

Two runs of one command read the same source and make the same plan.  The dry
run only prints the names of the files, and the real run writes them.  That both
speak of the same files rests on two facts about names: they hold no line end,
so the lines that are printed are the names, and they are distinct, so no file
takes the place of another.
-/

namespace ApiClientGen
namespace Command

open ClientCode (SourceFile)
open Document (ApiDocument)
open FileTree (NormalName Tree)

/-! ## Lines -/

theorem onOneLine_of_mem_filesToWrite {settings : Settings} {source : String}
    {document : ApiDocument} {file : SourceFile}
    (hfile : file ∈ filesToWrite settings source (Api.ofDocument document)) :
    Text.OnOneLine file.path := by
  rcases mem_filesToWrite hfile with ⟨name, hpath, hname⟩ | hreadme
  · rw [hpath]
    exact (Text.onOneLine_of_isIdentifierChar hname).append
      (Text.onOneLine_of_all rfl)
  · rw [hreadme]
    exact Text.onOneLine_of_all rfl

/-- The lines of a listing are the names of the files, whatever the document
is. -/
theorem lines_listing (settings : Settings) (source : String)
    (document : ApiDocument) :
    let plan := Plan.ofDocument settings source document
    Text.lines plan.listing = plan.files.map (·.path) ++ [""] := by
  intro plan
  have hlisting : plan.listing =
      String.join ((plan.files.map (·.path)).map (· ++ "\n")) := by
    rw [List.map_map]
    rfl
  rw [hlisting]
  apply Text.lines_join
  intro name hname
  obtain ⟨file, hfile, rfl⟩ := List.mem_map.mp hname
  exact onOneLine_of_mem_filesToWrite hfile

/-! ## Command lines -/

/-- The arguments that ask for a client of a source.  Behind the two hyphens any
text is a source. -/
def generationArguments (outputRoot : String) (noBaseClient dryRun : Bool)
    (source : String) : List String :=
  ["--output=" ++ outputRoot] ++
    (if noBaseClient then ["--no-base-client"] else []) ++
    (if dryRun then ["--dry-run"] else []) ++ ["--", source]

theorem parseArguments_generationArguments {outputRoot : String}
    (hroot : outputRoot ≠ "") (noBaseClient dryRun : Bool) (source : String) :
    parseArguments (generationArguments outputRoot noBaseClient dryRun source) =
      .ok ⟨some source, outputRoot, defaultTimeout, noBaseClient, dryRun,
        none⟩ := by
  cases noBaseClient <;> cases dryRun <;>
    simp [generationArguments, parseArguments, Progress.start, Options.default,
      Progress.takeAll, Progress.takeLong, longOption?, Progress.takeOption,
      Progress.settle, Progress.setValue, Progress.setSwitch,
      Progress.takeSources, Progress.takeSource, bind, Except.bind, hroot]

theorem ofArguments_generationArguments {outputRoot : String}
    (hroot : outputRoot ≠ "") (noBaseClient dryRun : Bool) (source : String) :
    Request.ofArguments
      (generationArguments outputRoot noBaseClient dryRun source) =
      .generation ⟨outputRoot, !noBaseClient, true, defaultTimeout⟩ dryRun
        source := by
  rw [Request.ofArguments, parseArguments_generationArguments hroot]
  rfl

/-- Every request for a client includes the file for readers. -/
theorem readme_of_generation {arguments : List String} {settings : Settings}
    {dryRun : Bool} {source : String}
    (hrequest :
      Request.ofArguments arguments = .generation settings dryRun source) :
    settings.readme = true := by
  unfold Request.ofArguments at hrequest
  split at hrequest
  · cases hrequest
  · split at hrequest
    · cases hrequest
    · cases hrequest
    · cases hrequest
      rfl

/-! ## Local sources -/

/-- The document that a local source holds, if it can be read and parsed. -/
def localDocument? (tree : Tree) (source : String) : Option ApiDocument :=
  (FileTree.readText tree source).toOption.bind fun text =>
    (Document.load (formatOf source) text).toOption

section LocalSource

variable {tree : Tree} {network : Network} {settings : Settings}
  {source : String} (hlocal : isRemote source = false)

include hlocal

theorem readSource_eq_ok_iff {text : String} :
    readSource tree network settings source = .ok text ↔
      FileTree.readText tree source = .ok text := by
  rw [readSource, hlocal, if_neg Bool.false_ne_true,
    Document.mapError_eq_ok_iff]

theorem planFor_of_localDocument? {document : ApiDocument}
    (hdocument : localDocument? tree source = some document) :
    planFor tree network settings source =
      .ok (Plan.ofDocument settings source document) := by
  obtain ⟨text, hread, hload⟩ := Option.bind_eq_some_iff.mp hdocument
  rw [Document.toOption_eq_some_iff] at hread hload
  exact planFor_eq_ok_iff.mpr ⟨text, document,
    (readSource_eq_ok_iff hlocal).mpr hread, hload, rfl⟩

theorem exists_planFor_eq_error (hnone : localDocument? tree source = none) :
    ∃ failure, planFor tree network settings source = .error failure := by
  cases hplan : planFor tree network settings source with
  | error failure => exact ⟨failure, rfl⟩
  | ok plan =>
      obtain ⟨text, document, hread, hload, -⟩ := planFor_eq_ok_iff.mp hplan
      rw [readSource_eq_ok_iff hlocal] at hread
      simp [localDocument?, hread, hload, Except.toOption] at hnone

end LocalSource

/-! ## Successful runs -/

/-- The files stand with their contents directly in the given directory of the
root, and all other files are as they were. -/
def FilesWritten (root directory : String) (files : List SourceFile)
    (before after : Tree) : Prop :=
  ∃ above, FileTree.resolve after root = .ok above ∧
    (∀ file ∈ files,
      after.fileAt? (above ++ [directory, file.path]) =
        some file.content.toUTF8) ∧
    ∀ place, (∀ file ∈ files, place ≠ above ++ [directory, file.path]) →
      after.fileAt? place = before.fileAt? place

section CarryOut

variable {plan : Plan} {root directory : String} {tree : Tree}

/-- A plan that is carried out to its end has written all its files and reported
them in order. -/
theorem filesWritten_carryOut
    (hplan : plan.outputDirectory = FileTree.joinPath root directory)
    (hdirectory : NormalName directory)
    (hfiles : ∀ file ∈ plan.files, NormalName file.path)
    (hdistinct : (plan.files.map (·.path)).Nodup) {first : SourceFile}
    (hfirst : first ∈ plan.files)
    (hexit : (plan.carryOut tree).1.exitCode = 0) :
    FilesWritten root directory plan.files tree (plan.carryOut tree).2 ∧
      (plan.carryOut tree).1.errors = plan.opening ++
        String.join (plan.files.map fun file =>
          Plan.wroteLine (FileTree.joinPath plan.outputDirectory file.path)) ++
            plan.closing := by
  have hchange := Plan.filesChange_carryOut hfiles tree
  obtain ⟨made, -, ⟨hone, -⟩ | ⟨htree, hsuccess⟩⟩ :=
    Plan.exists_carryOut hfiles tree
  · rw [hone] at hexit
    cases hexit
  obtain ⟨hnone, herrors⟩ := hsuccess hexit
  constructor
  · rw [hplan] at htree hnone hchange
    have hwritten (file : SourceFile) (hfile : file ∈ plan.files) :=
      FileTree.exists_fileAt?_of_writeEach hdirectory hfiles hdistinct hnone
        hfile
    rw [← htree] at hwritten
    obtain ⟨above, habove, -⟩ := hwritten first hfirst
    refine ⟨above, habove, fun file hfile => ?_, fun place hplace => ?_⟩
    · obtain ⟨same, hsame, hcontent⟩ := hwritten file hfile
      rwa [Except.ok.inj (habove.symm.trans hsame)]
    · refine hchange.file place fun hmem => ?_
      obtain ⟨same, hsame, file, hfile, rfl⟩ :=
        FileTree.exists_of_mem_placesOf hdirectory hfiles hmem
      exact hplace file hfile (by rw [Except.ok.inj (habove.symm.trans hsame)])
  · rw [herrors, FileTree.written_of_writeEach_eq_none hnone, List.map_map]
    rfl

end CarryOut

/-- Two runs of one command on a local source, a dry one and a real one.
Without a document both fail and change nothing.  With a document the dry run
changes nothing and prints the names of the files line by line, and a real run
that succeeds has written these files, reported them in the same order and
changed no other file. -/
theorem dry_run_lists_written_files {settings : Settings} {source : String}
    {dry real : List String} (hlocal : isRemote source = false)
    (hdry : Request.ofArguments dry = .generation settings true source)
    (hreal : Request.ofArguments real = .generation settings false source)
    (tree : Tree) (network : Network) :
    (localDocument? tree source = none →
      ∀ arguments ∈ [dry, real],
        (run arguments tree network).1.exitCode = 1 ∧
          (run arguments tree network).2 = tree) ∧
      ∀ document, localDocument? tree source = some document →
      let api := Api.ofDocument document
      let plan := Plan.ofDocument settings source document
      let files := ClientCode.sourceFiles api settings.baseClient ++
        [⟨readmeFileName, readmeText source⟩]
      ((run dry tree network).1.exitCode = 0 ∧ (run dry tree network).2 = tree ∧
        (run dry tree network).1.output =
          String.join (files.map (·.path ++ "\n")) ∧
        Text.lines (run dry tree network).1.output =
          files.map (·.path) ++ [""]) ∧
      ((run real tree network).1.exitCode = 0 →
        FilesWritten settings.outputRoot api.info.outputDirName files tree
            (run real tree network).2 ∧
          (run real tree network).1.errors = plan.opening ++
            String.join (files.map fun file =>
              Plan.wroteLine
                (FileTree.joinPath plan.outputDirectory file.path)) ++
              plan.closing) := by
  constructor
  · intro hnone arguments harguments
    obtain ⟨failure, hplan⟩ := exists_planFor_eq_error hlocal hnone
    obtain ⟨dryRun, hrequest⟩ :
        ∃ dryRun, Request.ofArguments arguments =
          .generation settings dryRun source := by
      rcases List.mem_cons.mp harguments with rfl | harguments
      · exact ⟨true, hdry⟩
      · obtain rfl := List.mem_singleton.mp harguments
        exact ⟨false, hreal⟩
    rw [run_of_generation hrequest, generate_of_error hplan]
    exact ⟨rfl, rfl⟩
  · intro document hdocument api plan files
    have hplan : planFor tree network settings source = .ok plan :=
      planFor_of_localDocument? hlocal hdocument
    have hfiles : plan.files = files := by
      simp [plan, files, Plan.ofDocument, filesToWrite,
        readme_of_generation hdry, api]
    rw [run_of_generation hdry, generate_dry hplan, run_of_generation hreal,
      generate_real hplan, ← hfiles]
    refine ⟨⟨rfl, rfl, rfl, lines_listing settings source document⟩,
      fun hexit => ?_⟩
    have hclient : ClientCode.clientFile api ∈ plan.files :=
      List.mem_append_left _
        (ClientCode.clientFile_mem_sourceFiles api settings.baseClient)
    exact filesWritten_carryOut
      (outputDirectory_ofDocument settings source document)
      (normalName_outputDirName_ofDocument document)
      (fun _ => normalName_of_mem_files settings source document)
      (nodup_paths_filesToWrite settings source document) hclient hexit

theorem dry_run_lists_written_files_empty_paths :
    let text :=
      "\x7b\"info\":\x7b\"title\":\"T\",\"version\":\"1\"\x7d,\"paths\":\x7b\x7d\x7d"
    let tree : Tree := ⟨[(["api.json"], .file text.toUTF8)], []⟩
    let settings : Settings := ⟨"out", false, true, defaultTimeout⟩
    let dry := generationArguments "out" true true "api.json"
    let real := generationArguments "out" true false "api.json"
    isRemote "api.json" = false ∧
      Request.ofArguments dry = .generation settings true "api.json" ∧
      Request.ofArguments real = .generation settings false "api.json" ∧
      (run dry tree).2 = tree ∧
      (run dry tree).1.output = "TV1HttpClient.cs\nREADME.md\n" ∧
      (run real tree).1.exitCode = 0 ∧
      ∃ document, localDocument? tree "api.json" = some document ∧
        FilesWritten "out" (Naming.outputDirName document.info.title)
          (ClientCode.sourceFiles (Api.ofDocument document) false ++
            [⟨readmeFileName, readmeText "api.json"⟩]) tree
          (run real tree).2 := by
  intro text tree settings dry real
  have hlocal : isRemote "api.json" = false := by decide +kernel
  have hroot : "out" ≠ "" := by decide
  have hdry : Request.ofArguments dry = .generation settings true "api.json" :=
    ofArguments_generationArguments hroot true true "api.json"
  have hreal :
      Request.ofArguments real = .generation settings false "api.json" :=
    ofArguments_generationArguments hroot true false "api.json"
  have houtput : (run dry tree).1.output = "TV1HttpClient.cs\nREADME.md\n" := by
    decide +kernel
  have hexit : (run real tree).1.exitCode = 0 := by decide +kernel
  obtain ⟨document, hdocument⟩ :
      ∃ document, localDocument? tree "api.json" = some document :=
    Option.isSome_iff_exists.mp (by decide +kernel)
  obtain ⟨⟨-, htree, -⟩, hwritten⟩ :=
    (dry_run_lists_written_files hlocal hdry hreal tree .unreachable).2
      document hdocument
  exact ⟨hlocal, hdry, hreal, htree, houtput, hexit, document, hdocument,
    (hwritten hexit).1⟩

end Command
end ApiClientGen

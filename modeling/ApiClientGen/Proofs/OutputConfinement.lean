import ApiClientGen.Command.Run
import ApiClientGen.Proofs.GeneratedNames
import ApiClientGen.Proofs.TreeChanges

/-!
# Where a run writes

A run writes at most the files of one plan, and a plan follows from the settings
and from the document that the source holds.  All its file names and the name of
its directory are single names, whatever the document says, so every file comes
to stand directly in that directory of the output root.
-/

namespace ApiClientGen
namespace Command

open ClientCode (SourceFile)
open Document (ApiDocument)
open FileTree (FilesChange NormalName Tree)

/-! ## The plan of a document -/

/-- The plan for a source that holds the given document. -/
def Plan.ofDocument (settings : Settings) (source : String)
    (document : ApiDocument) : Plan :=
  let api := Api.ofDocument document
  { className := api.info.clientClassName
    outputDirectory :=
      FileTree.joinPath settings.outputRoot api.info.outputDirName
    files := filesToWrite settings source api
    warnings := api.warnings }

theorem planFor_eq_ok_iff {tree : Tree} {network : Network}
    {settings : Settings} {source : String} {plan : Plan} :
    planFor tree network settings source = .ok plan ↔
      ∃ text document, readSource tree network settings source = .ok text ∧
        Document.load (formatOf source) text = .ok document ∧
          plan = Plan.ofDocument settings source document := by
  unfold planFor
  cases hread : readSource tree network settings source with
  | error failure => simp [bind, Except.bind]
  | ok text =>
      cases hload : Document.load (formatOf source) text with
      | error error =>
          simp [bind, Except.bind, Plan.make, hload, Except.mapError]
      | ok document =>
          simp [bind, Except.bind, Plan.make, hload, Except.mapError,
            Plan.ofDocument, eq_comm]

section Generate

variable {tree : Tree} {network : Network} {settings : Settings}
  {source : String}

theorem run_of_generation {arguments : List String} {dryRun : Bool}
    (hrequest :
      Request.ofArguments arguments = .generation settings dryRun source) :
    run arguments tree network =
      generate tree network settings dryRun source := by
  rw [run, hrequest]

theorem generate_of_error {failure : Failure}
    (hplan : planFor tree network settings source = .error failure)
    (dryRun : Bool) :
    generate tree network settings dryRun source =
      (.failed "" failure, tree) := by
  rw [generate, hplan]

theorem generate_dry {plan : Plan}
    (hplan : planFor tree network settings source = .ok plan) :
    generate tree network settings true source = (plan.dryOutcome, tree) := by
  rw [generate, hplan]
  rfl

theorem generate_real {plan : Plan}
    (hplan : planFor tree network settings source = .ok plan) :
    generate tree network settings false source = plan.carryOut tree := by
  rw [generate, hplan]
  rfl

end Generate

/-! ## Carrying out a plan -/

namespace Plan

variable {plan : Plan} (hfiles : ∀ file ∈ plan.files, NormalName file.path)

include hfiles

/-- The check on paths passes if all of them are names. -/
theorem leavingError?_eq_none : FileTree.leavingError? plan.files = none := by
  unfold FileTree.leavingError?
  rw [Option.map_eq_none_iff, List.find?_eq_none]
  intro file hfile
  simp [(hfiles file hfile).staysBelow_eq_true]

/-- Carrying out a plan makes directories and then either stops or writes the
files in order.  It succeeds exactly if all of them are written. -/
theorem exists_carryOut (tree : Tree) :
    ∃ made, FilesChange ∅ tree made ∧
      let writing := FileTree.writeEach plan.outputDirectory made plan.files
      ((plan.carryOut tree).1.exitCode = 1 ∧ (plan.carryOut tree).2 = made) ∨
        (plan.carryOut tree).2 = writing.tree ∧
          ((plan.carryOut tree).1.exitCode = 0 →
            writing.error = none ∧
              (plan.carryOut tree).1.errors =
                plan.opening ++ String.join (writing.written.map wroteLine) ++
                  plan.closing) := by
  have hmade := FileTree.filesChange_makeDirectories tree plan.outputDirectory
  refine ⟨_, hmade, ?_⟩
  unfold carryOut
  simp only
  cases (FileTree.makeDirectories tree plan.outputDirectory).error with
  | some cause => exact Or.inl ⟨rfl, rfl⟩
  | none =>
      right
      simp only [FileTree.writeFiles, leavingError?_eq_none hfiles]
      cases hwriting : (FileTree.writeEach plan.outputDirectory
        (FileTree.makeDirectories tree plan.outputDirectory).tree
        plan.files).error with
      | some error =>
          exact ⟨rfl, fun hexit => absurd hexit (by simp [Outcome.failed])⟩
      | none => exact ⟨rfl, fun _ => ⟨rfl, rfl⟩⟩

theorem filesChange_carryOut (tree : Tree) :
    FilesChange (FileTree.placesOf (plan.carryOut tree).2 plan.outputDirectory
      plan.files) tree
      (plan.carryOut tree).2 := by
  obtain ⟨made, hmade, ⟨-, htree⟩ | ⟨htree, -⟩⟩ := exists_carryOut hfiles tree
  · rw [htree]
    exact hmade.mono (Set.empty_subset _)
  · rw [htree]
    exact (hmade.mono (Set.empty_subset _)).trans
      (FileTree.filesChange_writeEach _ made _)

end Plan

/-! ## Confinement -/

/-- Files differ only directly in the given directory of the root, and there
only under the given names. -/
def ConfinedTo (root directory : String) (names : List String)
    (before after : Tree) : Prop :=
  ∀ place, after.fileAt? place ≠ before.fileAt? place →
    ∃ above, FileTree.resolve after root = .ok above ∧
      ∃ name ∈ names, place = above ++ [directory, name]

theorem Plan.confinedTo_carryOut {plan : Plan} {root directory : String}
    (hplan : plan.outputDirectory = FileTree.joinPath root directory)
    (hdirectory : NormalName directory)
    (hfiles : ∀ file ∈ plan.files, NormalName file.path) (tree : Tree) :
    ConfinedTo root directory (plan.files.map (·.path)) tree
      (plan.carryOut tree).2 := by
  intro place hplace
  have hchange := filesChange_carryOut hfiles tree
  have hmem := not_imp_comm.mp (hchange.file place) hplace
  rw [hplan] at hmem
  obtain ⟨above, habove, file, hfile, rfl⟩ :=
    FileTree.exists_of_mem_placesOf hdirectory hfiles hmem
  exact ⟨above, habove, file.path, List.mem_map_of_mem hfile, rfl⟩

section OfDocument

variable (settings : Settings) (source : String) (document : ApiDocument)

theorem normalName_of_mem_files {file : SourceFile}
    (hfile : file ∈ (Plan.ofDocument settings source document).files) :
    NormalName file.path :=
  normalName_of_mem_filesToWrite hfile

theorem normalName_outputDirName_ofDocument :
    NormalName (Api.ofDocument document).info.outputDirName :=
  Naming.normalName_outputDirName document.info.title

theorem outputDirectory_ofDocument :
    (Plan.ofDocument settings source document).outputDirectory =
      FileTree.joinPath settings.outputRoot
        (Api.ofDocument document).info.outputDirName := by
  simp only [Plan.ofDocument]

theorem confinedTo_carryOut_ofDocument (tree : Tree) :
    let plan := Plan.ofDocument settings source document
    ConfinedTo settings.outputRoot (Api.ofDocument document).info.outputDirName
      (plan.files.map (·.path)) tree (plan.carryOut tree).2 :=
  Plan.confinedTo_carryOut (outputDirectory_ofDocument settings source document)
    (normalName_outputDirName_ofDocument document)
    (fun _ => normalName_of_mem_files settings source document) tree

end OfDocument

/-- Whatever a document says, its directory and its files have single names,
which the check on paths lets pass, and its files are written directly into the
directory.  A run writes nothing else, whatever the file system holds and the
network answers. -/
theorem output_is_confined :
    (∀ (settings : Settings) (source : String) (document : ApiDocument),
      let api := Api.ofDocument document
      let plan := Plan.ofDocument settings source document
      NormalName api.info.outputDirName ∧
        (∀ file ∈ ClientCode.sourceFiles api settings.baseClient,
          NormalName file.path) ∧
        NormalName readmeFileName ∧
        FileTree.leavingError? plan.files = none ∧
        ∀ tree, ConfinedTo settings.outputRoot api.info.outputDirName
          (plan.files.map (·.path)) tree (plan.carryOut tree).2) ∧
    ∀ (arguments : List String) (tree : Tree) (network : Network),
      (run arguments tree network).2 = tree ∨
        ∃ settings source text document,
          Request.ofArguments arguments = .generation settings false source ∧
            readSource tree network settings source = .ok text ∧
            Document.load (formatOf source) text = .ok document ∧
            ConfinedTo settings.outputRoot
              (Api.ofDocument document).info.outputDirName
              ((Plan.ofDocument settings source document).files.map (·.path))
              tree (run arguments tree network).2 := by
  constructor
  · intro settings source document api plan
    refine ⟨normalName_outputDirName_ofDocument document, fun file hfile => ?_,
      normalName_readmeFileName, ?_,
      confinedTo_carryOut_ofDocument settings source document⟩
    · exact (ClientCode.isSourceName_of_mem_sourceFiles hfile).normalName
    · exact Plan.leavingError?_eq_none fun _ =>
        normalName_of_mem_files settings source document
  · intro arguments tree network
    cases hrequest : Request.ofArguments arguments with
    | answered outcome =>
        left
        rw [run, hrequest]
    | generation settings dryRun source =>
        rw [run_of_generation hrequest]
        cases hplan : planFor tree network settings source with
        | error failure =>
            left
            rw [generate_of_error hplan]
        | ok plan =>
            obtain ⟨text, document, hread, hload, rfl⟩ :=
              planFor_eq_ok_iff.mp hplan
            cases dryRun with
            | true =>
                left
                rw [generate_dry hplan]
            | false =>
                right
                rw [generate_real hplan]
                refine ⟨settings, source, text, document, rfl, hread, hload, ?_⟩
                exact confinedTo_carryOut_ofDocument settings source
                  document tree

end Command
end ApiClientGen

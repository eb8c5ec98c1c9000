import ApiClientGen.Api.OfDocument
import ApiClientGen.Command.Failure
import ApiClientGen.Command.Options
import ApiClientGen.Command.SourceName
import ApiClientGen.Command.Texts
import ApiClientGen.ClientCode.FileSet

/-!
# What a run is going to write

A plan is everything that follows from the options and the text of the source:
the output directory, the files and the reports.  Carrying it out is the only
part of a run that touches the file system.
-/

namespace ApiClientGen
namespace Command

open ClientCode (SourceFile)
open Document (LoadError)

/-- The files to write, where to, and what to report. -/
structure Plan where
  className : String
  outputDirectory : String
  files : List SourceFile
  warnings : List Api.Warning

/-- The files of an API with the one that tells readers not to edit them. -/
def filesToWrite (settings : Settings) (source : String) (api : Api.ApiModel) :
    List SourceFile :=
  ClientCode.sourceFiles api settings.baseClient ++
    (if settings.readme then [⟨readmeFileName, readmeText source⟩] else [])

/-- The plan for a source with the given text. -/
def Plan.make (settings : Settings) (source text : String) :
    Except LoadError Plan := do
  let document ← Document.load (formatOf source) text
  let api := Api.ofDocument document
  .ok
    { className := api.info.clientClassName
      outputDirectory :=
        FileTree.joinPath settings.outputRoot api.info.outputDirName
      files := filesToWrite settings source api
      warnings := api.warnings }

namespace Plan

/-- The names of the files, one a line. -/
def listing (plan : Plan) : String :=
  String.join (plan.files.map (·.path ++ "\n"))

/-- What a dry run reports beside the names of the files. -/
def preview (plan : Plan) : String :=
  "Would generate " ++ toString plan.files.length ++ " files in " ++
    plan.outputDirectory ++ "\n" ++
    String.join (plan.warnings.map (·.text ++ "\n"))

/-- What a run reports before it writes. -/
def opening (plan : Plan) : String :=
  "Generating " ++ plan.className ++ " → " ++ plan.outputDirectory ++ "\n"

/-- What a run reports about a file it has written. -/
def wroteLine (path : String) : String :=
  "  wrote " ++ path ++ "\n"

/-- What a run reports once all is written. -/
def closing (plan : Plan) : String :=
  (if plan.warnings.isEmpty then ""
    else toString plan.warnings.length ++
      " parts of the document were skipped or degraded " ++
      "(set RUST_LOG=warn for details)\n") ++
    "Generated " ++ toString plan.files.length ++ " files in " ++
      plan.outputDirectory ++ "\n"

end Plan
end Command
end ApiClientGen

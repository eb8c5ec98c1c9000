import ApiClientGen.ClientCode.SourceText
import ApiClientGen.FileTree.Basic

/-!
# Writing files below a directory

All paths are checked before the first file is written: if one of them leaves
the directory, nothing is written at all.  After that the files are written in
order until one fails.
-/

namespace ApiClientGen
namespace FileTree

open ClientCode (SourceFile)

/-- Why files are not written. -/
inductive WriteError where
  | leavesDirectory (path : String)
  | directoryNotMade (path : String) (cause : SystemError)
  | fileNotWritten (path : String) (cause : SystemError)
deriving Repr, DecidableEq

/-- What failed. -/
def WriteError.message : WriteError → String
  | .leavesDirectory path =>
    "refusing to write " ++ path ++ ": path leaves the output directory"
  | .directoryNotMade path _ => "failed to create directory " ++ path
  | .fileNotWritten path _ => "failed to write " ++ path

/-- Why it failed, if the file system gave the reason. -/
def WriteError.cause? : WriteError → Option SystemError
  | .leavesDirectory _ => none
  | .directoryNotMade _ cause => some cause
  | .fileNotWritten _ cause => some cause

/-- The outcome of writing files: the paths written, in order, and the error
that ended it. -/
structure Writing where
  tree : Tree
  written : List String
  error : Option WriteError

/-- Writes one file and the directories above it. -/
def writeOne (tree : Tree) (path : String) (content : String) :
    Attempt WriteError :=
  let attempt :=
    match parent? path with
    | some above => (above, makeDirectories tree above)
    | none => ("", ⟨tree, none⟩)
  match attempt.2.error with
  | some cause => ⟨attempt.2.tree, some (.directoryNotMade attempt.1 cause)⟩
  | none =>
    match writeFile attempt.2.tree path content.toUTF8 with
    | .ok tree => ⟨tree, none⟩
    | .error cause => ⟨attempt.2.tree, some (.fileNotWritten path cause)⟩

def writeEach (directory : String) (tree : Tree) : List SourceFile → Writing
  | [] => ⟨tree, [], none⟩
  | file :: rest =>
    let path := joinPath directory file.path
    let attempt := writeOne tree path file.content
    match attempt.error with
    | some error => ⟨attempt.tree, [], some error⟩
    | none =>
      let others := writeEach directory attempt.tree rest
      { others with written := path :: others.written }

/-- The error for files of which one leaves the directory that they are to be
below. -/
def leavingError? (files : List SourceFile) : Option WriteError :=
  (files.find? (!staysBelow ·.path)).map (.leavesDirectory ·.path)

def writeFiles (directory : String) (tree : Tree) (files : List SourceFile) :
    Writing :=
  match leavingError? files with
  | some error => ⟨tree, [], some error⟩
  | none => writeEach directory tree files

end FileTree
end ApiClientGen

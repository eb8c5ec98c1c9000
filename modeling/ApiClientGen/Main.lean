import ApiClientGen.Command.Run

/-!
# The command line

Carries a run out on the real file system.  What is read, written and reported
follows from the plan of the run; here it is only done.
-/

namespace ApiClientGen
namespace CommandLine

open ClientCode (SourceFile)
open Command (Failure Network Outcome Plan Request Settings)
open FileTree (SystemError WriteError)

/-- The size of an error number, which some operations report below zero. -/
def errorNumber (code : UInt32) : Nat :=
  code.toInt32.toInt.natAbs

/-- The error that the operating system reports, by its number and its
wording. -/
def systemError : IO.Error → SystemError
  | .unexpectedEof => .other "unexpected end of file" 0
  | .userError description => .other description 0
  | .interrupted _ code description | .noFileOrDirectory _ code description
  | .alreadyExists _ code description | .invalidArgument _ code description
  | .permissionDenied _ code description | .resourceExhausted _ code description
  | .inappropriateType _ code description | .noSuchThing _ code description
  | .otherError code description | .resourceBusy code description
  | .resourceVanished code description | .unsupportedOperation code description
  | .hardwareFault code description | .unsatisfiedConstraints code description
  | .illegalOperation code description | .protocolError code description
  | .timeExpired code description => .ofNumber (errorNumber code) description

/-- Does something with a path, which must not hold a zero character. -/
def attempt (path : String) (action : IO Unit) : IO (Option SystemError) := do
  if path.toList.contains '\x00' then return some .zeroByte
  match ← action.toBaseIO with
  | .ok _ => return none
  | .error error => return some (systemError error)

/-- Makes a directory in an existing one.  A directory that is there already is
as good. -/
def makeDirectory (path : String) : IO (Option SystemError) := do
  match ← attempt path (IO.FS.createDir path) with
  | some .alreadyExists => attempt path (IO.FS.createDirAll path)
  | result => return result

/-- Makes a directory and those above it that are missing, within the given
number of levels. -/
def makeDirectoriesWithin : Nat → String → IO (Option SystemError)
  | 0, _ => return none
  | levels + 1, path => do
    let some above := FileTree.parent? path | return none
    match ← makeDirectory path with
    | some .notFound =>
      match ← makeDirectoriesWithin levels above with
      | none => makeDirectory path
      | error => return error
    | result => return result

def makeDirectories (path : String) : IO (Option SystemError) :=
  makeDirectoriesWithin (path.length + 1) path

/-- Reads the text of a source.  No address can be reached from here. -/
def readText (settings : Settings) (source : String) :
    IO (Except Failure String) := do
  if Command.isRemote source then
    let answer := Network.unreachable settings.fetchTimeout source
    return answer.mapError (.notFetched source)
  match ← (IO.FS.readBinFile source).toBaseIO with
  | .error error => return .error (.notRead source (systemError error))
  | .ok content =>
    match String.fromUTF8? content with
    | some text => return .ok text
    | none => return .error (.notRead source .invalidText)

def writeOne (path content : String) : IO (Option WriteError) := do
  if let some above := FileTree.parent? path then
    if let some cause ← makeDirectories above then
      return some (.directoryNotMade above cause)
  if let some cause ← attempt path (IO.FS.writeFile path content) then
    return some (.fileNotWritten path cause)
  return none

/-- Writes files one after the other until one fails, and reports each. -/
def writeEach (directory : String) : List SourceFile → IO (Option WriteError)
  | [] => return none
  | file :: rest => do
    let path := FileTree.joinPath directory file.path
    if let some error ← writeOne path file.content then return some error
    IO.eprint (Plan.wroteLine path)
    writeEach directory rest

/-- Prints what is left to report of a run and gives its exit code. -/
def finish (outcome : Outcome) : IO UInt32 := do
  IO.print outcome.output
  IO.eprint outcome.errors
  return outcome.exitCode.toUInt32

def carryOut (plan : Plan) : IO UInt32 := do
  IO.eprint plan.opening
  if let some cause ← makeDirectories plan.outputDirectory then
    return ← finish
      (.failed "" (.outputDirectoryNotMade plan.outputDirectory cause))
  let error? ← match FileTree.leavingError? plan.files with
    | some error => pure (some error)
    | none => writeEach plan.outputDirectory plan.files
  match error? with
  | some error => finish (.failed "" (.notWritten error))
  | none => finish ⟨0, "", plan.closing⟩

def generate (settings : Settings) (dryRun : Bool) (source : String) :
    IO UInt32 := do
  match ← readText settings source with
  | .error failure => finish (.failed "" failure)
  | .ok text =>
    match Plan.make settings source text with
    | .error cause => finish (.failed "" (.notParsed source cause))
    | .ok plan =>
      if dryRun then finish plan.dryOutcome else carryOut plan

def run (arguments : List String) : IO UInt32 :=
  match Request.ofArguments arguments with
  | .answered outcome => finish outcome
  | .generation settings dryRun source => generate settings dryRun source

end CommandLine
end ApiClientGen

/-- Runs the command with the given arguments. -/
def main (arguments : List String) : IO UInt32 :=
  ApiClientGen.CommandLine.run arguments

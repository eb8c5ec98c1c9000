import ApiClientGen.Document.LoadDocument
import ApiClientGen.FileTree.WriteFiles

/-!
# Failures of the command

A failure says what could not be done and, one behind the other, the reasons.
-/

namespace ApiClientGen
namespace Command

open Document (LoadError)
open FileTree (SystemError WriteError)

/-- The steps in which the text of an address is fetched. -/
inductive FetchStep where
  | client
  | answer
  | body

/-- What is reported of a step that fails. -/
def FetchStep.message (address : String) : FetchStep → String
  | .client => "failed to build HTTP client"
  | .answer => "failed to fetch " ++ address
  | .body => "failed to read response body from " ++ address

/-- Why an address gives no text: the step that fails and the reasons for it,
the nearest first. -/
structure FetchError where
  step : FetchStep
  reasons : List String

/-- Why the command ends without a result. -/
inductive Failure where
  | notRead (source : String) (cause : SystemError)
  | notFetched (source : String) (cause : FetchError)
  | notParsed (source : String) (cause : LoadError)
  | outputDirectoryNotMade (path : String) (cause : SystemError)
  | notWritten (cause : WriteError)

namespace Failure

/-- What could not be done. -/
def message : Failure → String
  | .notRead source _ => "failed to read " ++ source
  | .notFetched source cause => cause.step.message source
  | .notParsed source _ => "failed to parse " ++ source
  | .outputDirectoryNotMade path _ =>
    "failed to create output directory " ++ path
  | .notWritten cause => cause.message

/-- The reasons, the nearest first. -/
def reasons : Failure → List String
  | .notRead _ cause => [cause.message]
  | .notFetched _ cause => cause.reasons
  | .notParsed _ cause => cause.message :: cause.reason?.toList
  | .outputDirectoryNotMade _ cause => [cause.message]
  | .notWritten cause => (cause.cause?.map (·.message)).toList

/-- Writes a text with `indent` behind each line end. -/
def indentLines (indent : String) (text : String) : String :=
  String.ofList (text.toList.flatMap fun c =>
    if c = '\n' then '\n' :: indent.toList else [c])

def numberedReasons (number : Nat) : List String → List String
  | [] => []
  | reason :: rest =>
    let digits := toString number
    let padding := String.ofList (List.replicate (5 - digits.length) ' ')
    (padding ++ digits ++ ": " ++ indentLines "       " reason) ::
      numberedReasons (number + 1) rest

def report (failure : Failure) : String :=
  match failure.reasons with
  | [] => failure.message
  | [reason] =>
    failure.message ++ "\n\nCaused by:\n    " ++ indentLines "    " reason
  | reasons =>
    failure.message ++ "\n\nCaused by:\n" ++
      String.intercalate "\n" (numberedReasons 0 reasons)

/-- The failure on one line. -/
def line (failure : Failure) : String :=
  String.intercalate ": " (failure.message :: failure.reasons)

end Failure
end Command
end ApiClientGen

import ApiClientGen.Document.ApiDocument
import ApiClientGen.Json.Reader
import ApiClientGen.Yaml.Reader

/-!
# Documents from text

A document is written in JSON or in YAML.  Both give the same kind of value,
which is then read in the same way.
-/

namespace ApiClientGen
namespace Document

inductive Format where
  | json
  | yaml
deriving Repr, DecidableEq

/-- Why a text is not a document. -/
inductive LoadError where
  | invalidJson (message : String)
  | invalidYaml (message : String)
  | invalidDocument (error : DocumentError)
deriving Repr, Inhabited

def LoadError.message : LoadError → String
  | .invalidJson message => "failed to parse JSON: " ++ message
  | .invalidYaml message => "failed to parse YAML: " ++ message
  | .invalidDocument error => error.message

/-- The reason behind a load error, if the error wraps one. -/
def LoadError.reason? : LoadError → Option String
  | .invalidJson message => some message
  | .invalidYaml message => some message
  | .invalidDocument _ => none

def readValue : Format → String → Except LoadError Json.Value
  | .json, text => (Json.parse text).mapError .invalidJson
  | .yaml, text => (Yaml.parse text).mapError .invalidYaml

/-- Reads a document from its text. -/
def load (format : Format) (text : String) : Except LoadError ApiDocument := do
  let value ← readValue format text
  (ApiDocument.ofJson value).mapError .invalidDocument

end Document
end ApiClientGen

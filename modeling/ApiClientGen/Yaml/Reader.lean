import ApiClientGen.Yaml.Compose
import ApiClientGen.Yaml.Lexer

/-!
# Reading YAML texts

A text holds at most one document.  A text without a document holds the value
null.
-/

namespace ApiClientGen
namespace Yaml

def read (text : List Char) : Except Fault Json.Value := do
  match ← onlyDocument (← tokens text) with
  | some root => documentValue root
  | none => .ok .null

/-- Reads the value of a text; the error is its wording. -/
def parse (text : String) : Except String Json.Value :=
  (read text.toList).mapError Fault.message

end Yaml
end ApiClientGen

import ApiClientGen.Api.Basic
import ApiClientGen.ClientCode.Lexical

/-!
# Source text by lines
-/

namespace ApiClientGen
namespace ClientCode

/-- The text of lines, each of which is ended. -/
def sourceText (lines : List String) : String :=
  String.join (lines.map (· ++ "\n"))

/-- The line that marks a file as generated. -/
def generatedMark : String := "// <auto-generated />"

/-- The documentation comment of a description, if there is one and it is not
empty. -/
def summaryLines (indent : String) : Option String → List String
  | none => []
  | some description =>
    if description = "" then []
    else
      [indent ++ "/// <summary>", indent ++ "/// " ++ commentText description,
        indent ++ "/// </summary>"]

def typeName : Api.ApiType → String
  | .integer => "int"
  | .string => "string"
  | .boolean => "bool"
  | .list => "List<object>"
  | .qualified space name => space ++ "." ++ name
  | .model name => name
  | .any => "object"

structure SourceFile where
  path : String
  content : String
deriving Repr, DecidableEq

/-- The name of the file that holds the type with the given name. -/
def fileName (name : String) : String :=
  name ++ ".cs"

end ClientCode
end ApiClientGen

import ApiClientGen.Naming.Identifier
import ApiClientGen.Text.Blank

/-!
# Names taken from the title and the version

The client class is named `{Title}V{Version}HttpClient`, and the directory of
the generated files is named `{Title}HttpClient`.
-/

namespace ApiClientGen
namespace Naming

/-- The title without the characters that cannot stand in an identifier, with an
underscore in front of a leading digit `0` to `9`. -/
def titlePart (title : List Char) : List Char :=
  match title.filter isIdentifierChar with
  | [] => []
  | first :: rest =>
    if Text.isAsciiDigit first then '_' :: first :: rest else first :: rest

/-- Removes one `v` or `V` in front. -/
def dropVersionLetter : List Char → List Char
  | [] => []
  | first :: rest => if first = 'v' || first = 'V' then rest else first :: rest

/-- The trimmed version without its letter, with an underscore for each
character that cannot stand in an identifier. -/
def versionPart (version : List Char) : List Char :=
  (dropVersionLetter (Text.trim version)).map fun c =>
    if isIdentifierChar c then c else '_'

def clientClassName (title version : String) : String :=
  String.ofList (titlePart title.toList ++ 'V' :: versionPart version.toList) ++
    "HttpClient"

/-- The name of the directory that holds the generated files: the title without
blanks and slashes of either kind. -/
def outputDirName (title : String) : String :=
  String.ofList (title.toList.filter fun c =>
    !(Text.isBlank c || c == '/' || c == '\\')) ++ "HttpClient"

end Naming
end ApiClientGen

import ApiClientGen.Text.Alphabetic
import ApiClientGen.Text.CaseMap

/-!
# Identifiers

Which names can be written as they are in generated code, and the two ways in
which the first character of a name is changed.
-/

namespace ApiClientGen
namespace Naming

def isIdentifierChar (c : Char) : Bool :=
  Text.isAlphanumeric c || c == '_'

/-- Whether `name` is a letter or an underscore followed by letters, numbers and
underscores. -/
def isIdentifier (name : String) : Bool :=
  match name.toList with
  | [] => false
  | first :: rest =>
    (Text.isAlphabetic first || first == '_') && rest.all isIdentifierChar

/-- The first character in upper case and the others as they are. -/
def capitalizeChars : List Char → List Char
  | [] => []
  | first :: rest => Text.upperChar first ++ rest

/-- The first character of a name in upper case and the others as they are, so
that `pet_id` becomes `Pet_id`. -/
def capitalizeFirst (name : String) : String :=
  String.ofList (capitalizeChars name.toList)

end Naming
end ApiClientGen

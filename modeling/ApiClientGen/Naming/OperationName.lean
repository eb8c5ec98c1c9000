import ApiClientGen.Naming.Identifier

/-!
# Names of operations

An operation is named after its path and its verb: `GET /user-profile/{id}`
becomes `UserProfileIdGet`.  A slash and a hyphen begin a new word, and all that
cannot stand in an identifier is dropped without ending a word.
-/

namespace ApiClientGen
namespace Naming

/-- Whether `c` begins a new word of a path. -/
def isWordBreak (c : Char) : Bool :=
  c == '/' || c == '-'

/-- The words of a path, written together.  `atStart` holds until a word has its
first character. -/
def pathWords (atStart : Bool) : List Char → List Char
  | [] => []
  | c :: rest =>
    if isWordBreak c then
      pathWords true rest
    else if isIdentifierChar c then
      (if atStart then Text.upperChar c else Text.lowerChar c) ++
        pathWords false rest
    else
      pathWords atStart rest

/-- A word in lower case with a capital first character. -/
def titleWord (word : List Char) : List Char :=
  capitalizeChars (Text.lower word)

def operationName (path verb : String) : String :=
  String.ofList (pathWords true path.toList ++ titleWord verb.toList)

end Naming
end ApiClientGen

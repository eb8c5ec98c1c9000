import ApiClientGen.Text.Blank

/-!
# HTTP methods
-/

namespace ApiClientGen
namespace Api

/-- The verbs that make a key of a path an operation. -/
inductive HttpMethod where
  | get
  | post
  | put
  | delete
  | patch
  | options
  | head
  | trace
deriving Repr, DecidableEq

namespace HttpMethod

/-- The verb in capitals. -/
def verb : HttpMethod → String
  | .get => "GET"
  | .post => "POST"
  | .put => "PUT"
  | .delete => "DELETE"
  | .patch => "PATCH"
  | .options => "OPTIONS"
  | .head => "HEAD"
  | .trace => "TRACE"

/-- The verb as a word with a capital. -/
def title : HttpMethod → String
  | .get => "Get"
  | .post => "Post"
  | .put => "Put"
  | .delete => "Delete"
  | .patch => "Patch"
  | .options => "Options"
  | .head => "Head"
  | .trace => "Trace"

/-- The method with the given verb, in either case of letters. -/
def ofKey? (key : String) : Option HttpMethod :=
  match String.ofList (Text.asciiLower key.toList) with
  | "get" => some .get
  | "post" => some .post
  | "put" => some .put
  | "delete" => some .delete
  | "patch" => some .patch
  | "options" => some .options
  | "head" => some .head
  | "trace" => some .trace
  | _ => none

end HttpMethod
end Api
end ApiClientGen

import ApiClientGen.Text.Blank

/-!
# Paths as texts

A path is a text whose segments are separated by slashes.  An empty segment and
a segment `.`  change nothing, except that a leading `.`  is kept.
-/

namespace ApiClientGen
namespace FileTree

/-- The parts of a path between its slashes. -/
def segments (path : String) : List String :=
  (Text.pieces (· == '/') path.toList).map String.ofList

/-- Whether a path starts at the root. -/
def isAbsolute (path : String) : Bool :=
  path.toList.head? == some '/'

/-- A path below a directory.  An absolute path is not below it, so it is
kept. -/
def joinPath (directory path : String) : String :=
  if isAbsolute path || directory = "" then path
  else if directory.toList.getLast? = some '/' then directory ++ path
  else directory ++ "/" ++ path

/-- Whether a segment changes nothing. -/
def isIdle (segment : String) : Bool :=
  segment == "" || segment == "."

/-- The segments without the idle ones at the end. -/
def dropIdleEnd (parts : List String) : List String :=
  (parts.reverse.dropWhile isIdle).reverse

/-- The path of the directory that a path is in.  The root and the empty path
are in none. -/
def parent? (path : String) : Option String :=
  match segments path with
  | "" :: first :: rest =>
    match dropIdleEnd (first :: rest) with
    | [] => none
    | parts => some ("/" ++ String.intercalate "/" (dropIdleEnd parts.dropLast))
  | "." :: rest =>
    match dropIdleEnd rest with
    | [] => some ""
    | parts =>
      match dropIdleEnd parts.dropLast with
      | [] => some "."
      | above => some ("./" ++ String.intercalate "/" above)
  | parts =>
    match dropIdleEnd parts with
    | [] => none
    | parts => some (String.intercalate "/" (dropIdleEnd parts.dropLast))

/-- Whether a path stays below the directory that it is joined to: it is not
empty, it does not start at the root or with a segment `.`, and it never goes
up. -/
def staysBelow (path : String) : Bool :=
  path != "" && !isAbsolute path && (segments path).head? != some "." &&
    !(segments path).contains ".."

end FileTree
end ApiClientGen

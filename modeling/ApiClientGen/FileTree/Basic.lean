import ApiClientGen.FileTree.PathText

/-!
# File trees

The state of a file system with directories and regular files, and the four
operations on it: making a directory, asking for one, reading a file and writing
a file.  An operation fails with the error that the path and the state of the
tree give.
-/

namespace ApiClientGen
namespace FileTree

/-- Why an operation on a path fails. -/
inductive SystemError where
  | notFound
  | alreadyExists
  | notADirectory
  | isADirectory
  | nameTooLong
  | zeroByte
  | invalidText
  /-- An error that these operations never give, as the system that reports it
  words and numbers it. -/
  | other (description : String) (code : Nat)
deriving Repr, DecidableEq

def SystemError.message : SystemError → String
  | .notFound => "No such file or directory (os error 2)"
  | .alreadyExists => "File exists (os error 17)"
  | .notADirectory => "Not a directory (os error 20)"
  | .isADirectory => "Is a directory (os error 21)"
  | .nameTooLong => "File name too long (os error 36)"
  | .zeroByte => "file name contained an unexpected NUL byte"
  | .invalidText => "stream did not contain valid UTF-8"
  | .other description code =>
    description ++ " (os error " ++ toString code ++ ")"

/-- The error with the given number, which the system words as described. -/
def SystemError.ofNumber (number : Nat) (description : String) : SystemError :=
  match number with
  | 2 => .notFound
  | 17 => .alreadyExists
  | 20 => .notADirectory
  | 21 => .isADirectory
  | 36 => .nameTooLong
  | _ => .other description number

/-- What stands at a place of the tree. -/
inductive Entry where
  | directory
  | file (content : ByteArray)

/-- A tree, given by the places that exist below the root.  A place is the list
of the names that lead to it. -/
structure Tree where
  entries : List (List String × Entry)
  workingDirectory : List String

namespace Tree

/-- What stands at a place; the root is always there. -/
def at? (tree : Tree) (place : List String) : Option Entry :=
  if place.isEmpty then some .directory else tree.entries.lookup place

def put (tree : Tree) (place : List String) (entry : Entry) : Tree :=
  { tree with entries := (place, entry) :: tree.entries.filter (·.1 != place) }

end Tree

/-- The greatest length of a name in bytes. -/
def maxNameLength : Nat := 255

/-- The greatest length of a path in bytes. -/
def maxPathLength : Nat := 4095

/-- Goes from a directory into the directory with the given name. -/
def enter (tree : Tree) (place : List String) (segment : String) :
    Except SystemError (List String) :=
  if isIdle segment then .ok place
  else if segment = ".." then .ok place.dropLast
  else if segment.utf8ByteSize > maxNameLength then .error .nameTooLong
  else
    match tree.at? (place ++ [segment]) with
    | none => .error .notFound
    | some (.file _) => .error .notADirectory
    | some .directory => .ok (place ++ [segment])

/-- Goes through directories one after the other. -/
def walk (tree : Tree) (place : List String) :
    List String → Except SystemError (List String)
  | [] => .ok place
  | segment :: rest => do
    let next ← enter tree place segment
    walk tree next rest

/-- Where a path leads. -/
inductive Target where
  /-- An existing directory that the path names by its place: the root, `.`  or
  `..`. -/
  | directory (place : List String)
  /-- A name in an existing directory, which need not be there itself.  A slash
  behind the name asks for a directory. -/
  | named (place : List String) (name : String) (slash : Bool)

/-- Follows a path up to its last segment. -/
def locate (tree : Tree) (path : String) : Except SystemError Target := do
  if path.toList.contains '\x00' then .error .zeroByte
  else if path = "" then .error .notFound
  else if path.utf8ByteSize > maxPathLength then .error .nameTooLong
  else
    let parts := segments path
    let start := if isAbsolute path then [] else tree.workingDirectory
    let kept := (parts.reverse.dropWhile (· == "")).reverse
    match kept.getLast? with
    | none => .ok (.directory [])
    | some last =>
      let place ← walk tree start kept.dropLast
      if last = "." then .ok (.directory place)
      else if last = ".." then .ok (.directory place.dropLast)
      else .ok (.named place last (kept.length != parts.length))

def makeDirectory (tree : Tree) (path : String) : Except SystemError Tree := do
  match ← locate tree path with
  | .directory _ => .error .alreadyExists
  | .named place name _ =>
    if name.utf8ByteSize > maxNameLength then .error .nameTooLong
    else
      match tree.at? (place ++ [name]) with
      | some _ => .error .alreadyExists
      | none => .ok (tree.put (place ++ [name]) .directory)

def isDirectory (tree : Tree) (path : String) : Bool :=
  match locate tree path with
  | .ok (.directory _) => true
  | .ok (.named place name _) =>
    match tree.at? (place ++ [name]) with
    | some .directory => true
    | _ => false
  | .error _ => false

/-- Writes a file, which replaces the one that is there. -/
def writeFile (tree : Tree) (path : String) (content : ByteArray) :
    Except SystemError Tree := do
  match ← locate tree path with
  | .directory _ => .error .isADirectory
  | .named place name slash =>
    if slash then .error .isADirectory
    else if name.utf8ByteSize > maxNameLength then .error .nameTooLong
    else
      match tree.at? (place ++ [name]) with
      | some .directory => .error .isADirectory
      | _ => .ok (tree.put (place ++ [name]) (.file content))

def readFile (tree : Tree) (path : String) : Except SystemError ByteArray := do
  match ← locate tree path with
  | .directory _ => .error .isADirectory
  | .named place name slash =>
    if name.utf8ByteSize > maxNameLength then .error .nameTooLong
    else
      match tree.at? (place ++ [name]) with
      | none => .error .notFound
      | some .directory => .error .isADirectory
      | some (.file content) =>
        if slash then .error .notADirectory else .ok content

/-- The content of a file that holds text. -/
def readText (tree : Tree) (path : String) : Except SystemError String := do
  let content ← readFile tree path
  match String.fromUTF8? content with
  | some text => .ok text
  | none => .error .invalidText

/-- The outcome of an operation that may change the tree before it fails. -/
structure Attempt (ε : Type) where
  tree : Tree
  error : Option ε

/-- Makes a directory and those above it that are missing, within the given
number of levels. -/
def makeDirectoriesWithin : Nat → Tree → String → Attempt SystemError
  | 0, tree, _ => ⟨tree, none⟩
  | levels + 1, tree, path =>
    match parent? path with
    | none => ⟨tree, none⟩
    | some above =>
      match makeDirectory tree path with
      | .ok made => ⟨made, none⟩
      | .error .notFound =>
        let attempt := makeDirectoriesWithin levels tree above
        match attempt.error with
        | some error => ⟨attempt.tree, some error⟩
        | none => finish attempt.tree path
      | .error error => settle tree path error
where
  /-- Makes the directory itself once those above it are there. -/
  finish (tree : Tree) (path : String) : Attempt SystemError :=
    match makeDirectory tree path with
    | .ok made => ⟨made, none⟩
    | .error error => settle tree path error
  /-- An existing directory is as good as a new one. -/
  settle (tree : Tree) (path : String) (error : SystemError) :
      Attempt SystemError :=
    if error = .alreadyExists && isDirectory tree path then ⟨tree, none⟩
    else ⟨tree, some error⟩

/-- Makes a directory and those above it that are missing.  A path has fewer
levels than characters. -/
def makeDirectories (tree : Tree) (path : String) : Attempt SystemError :=
  makeDirectoriesWithin (path.length + 1) tree path

end FileTree
end ApiClientGen

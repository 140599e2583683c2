import RemovableMedia.Files.OsError
import RemovableMedia.Files.Path
import RemovableMedia.Text.Utf8

/-!
# File trees

The part of the file system that the daemon touches: directories, files with their content, and
sockets, each at the list of names that leads to it from the root.  Paths are followed name by
name as the kernel does, so each step but the last has to lead to a directory.
-/

set_option autoImplicit false

namespace RemovableMedia

/-- The names that lead from the root to a place. -/
abbrev Location := List String

/-- What can be at a place. -/
inductive FileEntry where
  | directory
  | file (content : List UInt8)
  | socket
deriving DecidableEq, Repr

/-- A file system and the directory from which relative paths start. -/
structure FileTree where
  entries : List (Location × FileEntry)
  workingDirectory : Location
deriving DecidableEq, Repr

namespace FileTree

/-- The greatest number of bytes in a name. -/
def nameLimit : Nat := 255

/-- The number of bytes that a path stays below. -/
def pathLimit : Nat := 4096

/-- The tree that holds nothing but its working directory. -/
def empty : FileTree :=
  ⟨[(["work"], .directory)], ["work"]⟩

/-- What is at a place; the root is always a directory. -/
def entry? (tree : FileTree) (location : Location) : Option FileEntry :=
  if location.isEmpty then some .directory
  else (tree.entries.find? fun entry => entry.1 == location).map Prod.snd

/-- Whether a place is a directory. -/
def isDirectoryAt (tree : FileTree) (location : Location) : Bool :=
  tree.entry? location == some .directory

/-- The tree with something put at a place. -/
def put (tree : FileTree) (location : Location) (entry : FileEntry) : FileTree :=
  { tree with
    entries := tree.entries.filter (fun other => other.1 ≠ location) ++ [(location, entry)] }

/-- The tree without what is at a place. -/
def erase (tree : FileTree) (location : Location) : FileTree :=
  { tree with entries := tree.entries.filter fun other => other.1 ≠ location }

/-- The tree without what is at a place or below it. -/
def prune (tree : FileTree) (location : Location) : FileTree :=
  { tree with entries := tree.entries.filter fun other => !location.isPrefixOf other.1 }

/-- Whether a directory has anything directly in it. -/
def hasEntriesAt (tree : FileTree) (location : Location) : Bool :=
  tree.entries.any fun other => other.1 ≠ [] ∧ other.1.dropLast = location

/-- Follows one piece of a path from a place. -/
def step (tree : FileTree) (location : Location) (piece : String) : Except OsError Location :=
  if !tree.isDirectoryAt location then .error .notDirectory
  else if piece = "" ∨ piece = "." then .ok location
  else if piece = ".." then .ok location.dropLast
  else if nameLimit < piece.utf8ByteSize then .error .nameTooLong
  else if (tree.entry? (location ++ [piece])).isSome then .ok (location ++ [piece])
  else .error .notFound

/-- Follows the pieces of a path from a place. -/
def walk (tree : FileTree) : Location → List String → Except OsError Location
  | location, [] => .ok location
  | location, piece :: rest =>
    match tree.step location piece with
    | .ok next => tree.walk next rest
    | .error e => .error e

/-- The place where a path starts. -/
def start (tree : FileTree) (path : String) : Location :=
  if Path.isAbsolute path then [] else tree.workingDirectory

/-- Refuses texts that the kernel does not take for paths. -/
def checkPath (path : String) : Except OsError Unit :=
  if path.toList.contains '\x00' then .error .nulInName
  else if path = "" then .error .notFound
  else if pathLimit ≤ path.utf8ByteSize then .error .nameTooLong
  else .ok ()

/-- The place that a path leads to. -/
def resolve (tree : FileTree) (path : String) : Except OsError Location := do
  checkPath path
  tree.walk (tree.start path) (Path.pieces path)

/-- Whether a path leads to anything. -/
def exists? (tree : FileTree) (path : String) : Bool :=
  (tree.resolve path).toBool

/-- Whether a path leads to a directory. -/
def isDirectory (tree : FileTree) (path : String) : Bool :=
  match tree.resolve path with
  | .ok location => tree.isDirectoryAt location
  | .error _ => false

/-- Whether a path leads to a directory that is not empty. -/
def isNonEmptyDirectory (tree : FileTree) (path : String) : Bool :=
  match tree.resolve path with
  | .ok location => tree.isDirectoryAt location && tree.hasEntriesAt location
  | .error _ => false

/-- The pieces of a path without the empty ones that slashes at its end make. -/
def trimmedPieces (path : String) : List String :=
  ((Path.pieces path).reverse.dropWhile (· == "")).reverse

/-- The directory and the name by which a path reaches its last place.  There is no name when the
path ends in dots or is the root. -/
def resolveLast (tree : FileTree) (path : String) :
    Except OsError (Location × Option String) := do
  checkPath path
  match (trimmedPieces path).getLast? with
  | none => return ([], none)
  | some name =>
    let directory ← tree.walk (tree.start path) (trimmedPieces path).dropLast
    if !tree.isDirectoryAt directory then throw .notDirectory
    if name = "." ∨ name = ".." then return (directory, none)
    if nameLimit < name.utf8ByteSize then throw .nameTooLong
    return (directory, some name)

/-- Makes one directory. -/
def makeDirectory (tree : FileTree) (path : String) : Except OsError FileTree := do
  match ← tree.resolveLast path with
  | (_, none) => throw .alreadyExists
  | (directory, some name) =>
    if (tree.entry? (directory ++ [name])).isSome then throw .alreadyExists
    return tree.put (directory ++ [name]) .directory

/-- Makes a directory, at most the given number of levels below one that exists, with those that
lead to it. -/
def makeDirectoriesWithin (tree : FileTree) (path : String) : Nat → FileTree × Except OsError Unit
  | 0 => (tree, .error .notFound)
  | levels + 1 =>
    if path = "" then (tree, .ok ())
    else
      match tree.makeDirectory path with
      | .ok tree => (tree, .ok ())
      | .error .notFound =>
        match Path.parent? path with
        | none => (tree, .error .notFound)
        | some parent =>
          match tree.makeDirectoriesWithin parent levels with
          | (tree, .error e) => (tree, .error e)
          | (tree, .ok ()) =>
            match tree.makeDirectory path with
            | .ok tree => (tree, .ok ())
            | .error e => if tree.isDirectory path then (tree, .ok ()) else (tree, .error e)
      | .error e => if tree.isDirectory path then (tree, .ok ()) else (tree, .error e)

/-- Makes a directory together with those that lead to it.  Directories made before a failure
stay. -/
def makeDirectories (tree : FileTree) (path : String) : FileTree × Except OsError Unit :=
  tree.makeDirectoriesWithin path ((Path.parts path).length + 1)

/-- Removes an empty directory. -/
def removeDirectory (tree : FileTree) (path : String) : Except OsError FileTree := do
  match ← tree.resolveLast path with
  | (_, none) => throw .directoryNotEmpty
  | (directory, some name) =>
    let location := directory ++ [name]
    match tree.entry? location with
    | none => throw .notFound
    | some .directory =>
      if tree.hasEntriesAt location then throw .directoryNotEmpty
      return tree.erase location
    | some _ => throw .notDirectory

/-- Removes a file or socket. -/
def removeFile (tree : FileTree) (path : String) : Except OsError FileTree := do
  let location ← tree.resolve path
  match tree.entry? location with
  | some .directory => throw .isDirectory
  | _ => return tree.erase location

/-- Removes a file, or a directory with everything below it. -/
def removeAll (tree : FileTree) (path : String) : Except OsError FileTree := do
  let location ← tree.resolve path
  return tree.prune location

/-- Puts a new file or socket at a path, in place of a file that is there. -/
def writeEntry (tree : FileTree) (path : String) (entry : FileEntry) :
    Except OsError FileTree := do
  match ← tree.resolveLast path with
  | (_, none) => throw .isDirectory
  | (directory, some name) =>
    let location := directory ++ [name]
    if (Path.pieces path).getLast? = some "" then throw .isDirectory
    match tree.entry? location with
    | some .directory => throw .isDirectory
    | some .socket => throw .noSuchDevice
    | _ => return tree.put location entry

/-- Writes a file. -/
def writeFile (tree : FileTree) (path : String) (content : List UInt8) :
    Except OsError FileTree :=
  tree.writeEntry path (.file content)

/-- The content of a file. -/
def readFile (tree : FileTree) (path : String) : Except OsError (List UInt8) := do
  let location ← tree.resolve path
  match tree.entry? location with
  | some (.file content) => return content
  | some .directory => throw .isDirectory
  | some .socket => throw .noSuchDevice
  | none => throw .notFound

/-- The content of a file that holds text. -/
def readText (tree : FileTree) (path : String) : Except OsError String := do
  match Text.Utf8.decode? (← tree.readFile path) with
  | some text => return text
  | none => throw .notText

/-- A directory made for a file that is to be written at a path, and the file. -/
def writeFileWithParents (tree : FileTree) (path : String) (content : List UInt8) : FileTree :=
  let tree := (tree.makeDirectories ((Path.parent? path).getD "")).1
  (tree.writeFile path content).toOption.getD tree

/-- The names of what is directly in a directory. -/
def namesAt (tree : FileTree) (location : Location) : List String :=
  tree.entries.filterMap fun other =>
    if other.1.dropLast = location then other.1.getLast? else none

/-- Everything below the working directory, as relative paths in order; directories end in a
slash. -/
def listing (tree : FileTree) : List String :=
  let shown := tree.entries.filterMap fun (location, entry) =>
    if tree.workingDirectory.isPrefixOf location ∧ location ≠ tree.workingDirectory then
      let path := "/".intercalate (location.drop tree.workingDirectory.length)
      some (if entry = .directory then path ++ "/" else path)
    else none
  shown.mergeSort fun a b => decide (a ≤ b)

end FileTree

end RemovableMedia

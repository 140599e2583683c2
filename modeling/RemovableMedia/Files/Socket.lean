import RemovableMedia.Files.FileTree

/-!
# Sockets in the file system

A socket is bound to a path, in place of a file or socket that is there, and clients connect by
that path.  What is reached under the path decides whether they can.
-/

set_option autoImplicit false

namespace RemovableMedia.FileTree

/-- The number of bytes that a socket path stays below. -/
def socketPathLimit : Nat := 108

/-- Refuses texts that do not fit into a socket address. -/
def checkSocketPath (path : String) : Except OsError Unit :=
  if path.toList.contains '\x00' then .error .nulInSocketPath
  else if socketPathLimit ≤ path.utf8ByteSize then .error .socketPathTooLong
  else .ok ()

/-- Puts a new socket at a path.  The empty path stands for a socket without a place. -/
def placeSocket (files : FileTree) (path : String) : Except OsError FileTree := do
  checkSocketPath path
  if path = "" then return files
  match ← files.resolveLast path with
  | (_, none) => throw .addressInUse
  | (directory, some name) =>
    if (files.entry? (directory ++ [name])).isSome then throw .addressInUse
    if (Path.pieces path).getLast? = some "" then throw .notFound
    return files.put (directory ++ [name]) .socket

/-- The files without a file or socket that is at a path. -/
def withoutFile (files : FileTree) (path : String) : Except OsError FileTree :=
  if files.exists? path then files.removeFile path else .ok files

/-- Makes the directory in which a path lies, unless there is something. -/
def makeParent (files : FileTree) (path : String) : FileTree × Except OsError Unit :=
  match Path.parent? path with
  | some parent => if files.exists? parent then (files, .ok ()) else files.makeDirectories parent
  | none => (files, .ok ())

/-- Binds a socket to a path.  Directories made before a failure stay. -/
def bindSocket (files : FileTree) (path : String) : FileTree × Except OsError Unit :=
  match files.withoutFile path with
  | .error e => (files, .error e)
  | .ok files =>
    match files.makeParent path with
    | (files, .error e) => (files, .error e)
    | (files, .ok ()) =>
      match files.placeSocket path with
      | .ok files => (files, .ok ())
      | .error e => (files, .error e)

/-- Removes what a path leads to, if that is possible. -/
def removeSocket (files : FileTree) (path : String) : FileTree :=
  match files.withoutFile path with
  | .ok files => files
  | .error _ => files

/-- Whether somebody may be listening at a path, or why not. -/
def findSocket (files : FileTree) (path : String) : Except OsError Unit := do
  checkSocketPath path
  if path = "" then throw .invalidArgument
  match files.entry? (← files.resolve path) with
  | some .socket => return ()
  | _ => throw .connectionRefused

end RemovableMedia.FileTree

import RemovableMedia.Text.Split

/-!
# Paths

A path is a text; what it means is its list of parts.  Repeated slashes, a slash at the end and
dots that name the place itself make no difference to the parts, except that a relative path may
begin with a dot.  Two paths are the same when their parts are.
-/

set_option autoImplicit false

namespace RemovableMedia.Path

/-- One step of a path. -/
inductive Part where
  | root
  | here
  | up
  | name (text : String)
deriving DecidableEq, Repr

/-- The texts between the slashes of a path. -/
def pieces (path : String) : List String :=
  Text.splitString '/' path

/-- Whether a path starts at the root. -/
def isAbsolute (path : String) : Bool :=
  path.toList.head? == some '/'

/-- The part that a piece stands for, if it makes a difference. -/
def partOf? (piece : String) : Option Part :=
  if piece = "" ∨ piece = "." then none
  else if piece = ".." then some .up
  else some (.name piece)

/-- The parts of a path. -/
def parts (path : String) : List Part :=
  let rest := (pieces path).filterMap partOf?
  if isAbsolute path then .root :: rest
  else if (pieces path).head? = some "." then .here :: rest
  else rest

/-- Whether two texts are the same path. -/
def same (a b : String) : Bool :=
  parts a == parts b

/-- Whether a path lies in a directory or is that directory. -/
def startsWith (path dir : String) : Bool :=
  (parts dir).isPrefixOf (parts path)

/-- The last name of a path, unless it ends otherwise than in a name. -/
def fileName? (path : String) : Option String :=
  match (parts path).getLast? with
  | some (.name text) => some text
  | _ => none

/-- The last name of the path without its last part. -/
def parentName? (path : String) : Option String :=
  match (parts path).getLast?, (parts path).dropLast.getLast? with
  | some .root, _ => none
  | some _, some (.name text) => some text
  | _, _ => none

/-- The name after the last slash, which may be empty. -/
def lastPiece (path : String) : String :=
  ((pieces path).getLast?).getD ""

/-- A path continued by another one; an absolute one stands for itself. -/
def join (base rest : String) : String :=
  if isAbsolute rest then rest
  else if base = "" ∨ base.toList.getLast? = some '/' then base ++ rest
  else base ++ "/" ++ rest

/-- How a list of parts is written. -/
def ofParts : List Part → String
  | [] => ""
  | .root :: rest => "/" ++ "/".intercalate (rest.map partText)
  | parts => "/".intercalate (parts.map partText)
where
  /-- How one part is written. -/
  partText : Part → String
    | .root => ""
    | .here => "."
    | .up => ".."
    | .name text => text

/-- The path without its last part; the root and the empty path have none. -/
def parent? (path : String) : Option String :=
  match (parts path).getLast? with
  | none => none
  | some .root => none
  | some _ => some (ofParts (parts path).dropLast)

end RemovableMedia.Path

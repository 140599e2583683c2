import RemovableMedia.Message

/-!
# Reading messages

The reader takes a line whose name it knows and whose arguments have the number and the words that
the name asks for.  It is lenient in one place only: mount options without a mount point are
dropped, and a mount point without options has empty ones.
-/

set_option autoImplicit false

namespace RemovableMedia

/-- What is wrong with the arguments of a message. -/
inductive MessageFault where
  | missing (field : String)
  | badKind (word : String)
  | badSubtype (word : String)
  | badState (word : String)
  | wrongCount (kind : Device.Kind) (expected got : Nat)
  | unknownCode (word : String)
  | nilEntry
  | expectedOnePath
  | expectedTwo
  | expectedThree
deriving DecidableEq, Repr

/-- How a fault is worded. -/
def MessageFault.message : MessageFault → String
  | .missing field => "missing " ++ field
  | .badKind word => "bad kind " ++ Text.quoted word
  | .badSubtype word => "bad subtype " ++ Text.quoted word
  | .badState word => "bad state " ++ Text.quoted word
  | .wrongCount kind expected got => s!"{kind.word} expects {expected} arguments, got {got}"
  | .unknownCode word => ErrorCode.unknownWordMessage word
  | .nilEntry => "nil list entry"
  | .expectedOnePath => "expected one path"
  | .expectedTwo => "expected two arguments"
  | .expectedThree => "expected three arguments"

/-- Why a line is not a message. -/
inductive MessageError where
  | unknown (name : String)
  | malformed (name : String) (fault : MessageFault)
deriving DecidableEq, Repr

/-- How a refusal is worded. -/
def MessageError.message : MessageError → String
  | .unknown name => "unknown message: " ++ name
  | .malformed name fault => "malformed " ++ name ++ ": " ++ fault.message

namespace Description

/-- An argument that has to be there. -/
def textAt (field : String) : Option (Option String) → Except MessageFault String
  | some (some text) => .ok text
  | _ => .error (.missing field)

/-- The hardware that a word stands for. -/
def readSubtype (word : String) : Except MessageFault Device.Subtype :=
  match Device.Subtype.ofWord? word with
  | some subtype => .ok subtype
  | none => .error (.badSubtype word)

/-- The media state that a word stands for. -/
def readState (word : String) : Except MessageFault Device.MediaState :=
  match Device.MediaState.ofWord? word with
  | some state => .ok state
  | none => .error (.badState word)

/-- The mount that a mount point and options state. -/
def readMount (point options : Option String) : Option Mount.Info :=
  point.map fun point => ⟨point, options.getD ""⟩

/-- The number of arguments that describe a device of a kind. -/
def argCount : Device.Kind → Nat
  | .stateless => 4
  | .stateful => 9
  | .partition => 7

/-- The description with the given beginning and the arguments after the kind. -/
def ofRest (parentPath path : String) (kind : Device.Kind) (rest : Arguments) :
    Except MessageFault Description :=
  match kind, rest with
  | .stateless, [subtype] => do
    let subtype ← textAt "subtype" (some subtype) >>= readSubtype
    return ⟨parentPath, path, .stateless, some subtype, none, none, none, none⟩
  | .stateful, [subtype, state, filesystem, label, point, options] => do
    let state ← textAt "state" (some state) >>= readState
    let subtype ← textAt "subtype" (some subtype) >>= readSubtype
    return ⟨parentPath, path, .stateful, some subtype, some state, filesystem, label,
      readMount point options⟩
  | .partition, [filesystem, label, point, options] =>
    .ok ⟨parentPath, path, .partition, none, none, filesystem, label, readMount point options⟩
  | kind, rest => .error (.wrongCount kind (argCount kind) (rest.length + 3))

/-- The description that arguments state. -/
def ofArgs (args : Arguments) : Except MessageFault Description := do
  let parentPath ← textAt "parent path" args[0]?
  let path ← textAt "path" args[1]?
  let word ← textAt "kind" args[2]?
  match Device.Kind.ofWord? word with
  | some kind => ofRest parentPath path kind (args.drop 3)
  | none => .error (.badKind word)

end Description

namespace Message

/-- Arguments of which none may be absent. -/
def texts : Arguments → Except MessageFault (List String)
  | [] => .ok []
  | some text :: rest => (texts rest).map (text :: ·)
  | none :: _ => .error .nilEntry

/-- An answer: the name of the command it answers, and the rest. -/
def ofEcho (build : String → Arguments → Message) (args : Arguments) :
    Except MessageFault Message :=
  match args with
  | some command :: rest => .ok (build command rest)
  | _ => .error (.missing "command name")

/-- An answer that ends with an error code. -/
def ofFailure (args : Arguments) : Except MessageFault Message :=
  match args with
  | some command :: rest =>
    match rest.getLast? with
    | some (some word) =>
      match ErrorCode.ofWord? word with
      | some code => .ok (.failed command rest.dropLast code)
      | none => .error (.unknownCode word)
    | _ => .error (.missing "error code")
  | _ => .error (.missing "command name")

/-- The message that arguments state under a name, if the name is known. -/
def ofParts (name : String) (args : Arguments) : Option (Except MessageFault Message) :=
  if name = "started" then some (ofEcho started args)
  else if name = "finished" then some (ofEcho finished args)
  else if name = "succeeded" then some (ofEcho succeeded args)
  else if name = "failed" then some (ofFailure args)
  else if name = "removable_device" then some ((Description.ofArgs args).map device)
  else if name = "supported_filesystems" then some ((texts args).map supportedFilesystems)
  else if name = "supported_filesystem_options" then
    some ((texts args).map supportedFilesystemOptions)
  else if name = "removable_device_added" then
    some ((Description.ofArgs args).map fun d => notification (.added d))
  else if name = "removable_device_changed" then
    some ((Description.ofArgs args).map fun d => notification (.changed d))
  else if name = "removable_device_removed" then
    some ((texts args).bind fun
      | [path] => .ok (notification (.removed path))
      | _ => .error .expectedOnePath)
  else if name = "removable_device_mounted" then
    some ((texts args).bind fun
      | [path, point, options] => .ok (notification (.mounted path ⟨point, options⟩))
      | _ => .error .expectedThree)
  else if name = "removable_device_unmounted" then
    some ((texts args).bind fun
      | [path, point] => .ok (notification (.unmounted path point))
      | _ => .error .expectedTwo)
  else none

/-- The message that a line states. -/
def ofLine (line : Line) : Except MessageError Message :=
  match ofParts line.name line.args with
  | some (.ok message) => .ok message
  | some (.error fault) => .error (.malformed line.name fault)
  | none => .error (.unknown line.name)

end Message

end RemovableMedia

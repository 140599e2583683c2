import RemovableMedia.Files.FileTree
import RemovableMedia.Mount.Request

/-!
# Mounting by the kernel

How requests are put to the kernel and how its failures are reported.  Some option words are flags
of the call, the word for a writable mount is its default, and all others go to the file system as
text.  The kernel takes texts up to their first NUL, so a text that holds one never reaches it.
-/

set_option autoImplicit false

namespace RemovableMedia.Mount.Kernel

/-- The option words that are flags, with their bits. -/
def flagWords : List (String × Nat) :=
  [("ro", 1), ("nosuid", 2), ("nodev", 4), ("noexec", 8), ("sync", 16), ("dirsync", 128),
    ("noatime", 1024), ("nodiratime", 2048), ("relatime", 2097152)]

/-- The bit of an option word, if it is a flag. -/
def flag? (option : String) : Option Nat :=
  (flagWords.find? fun entry => entry.1 == option).map Prod.snd

/-- The flags among options. -/
def flags (options : List String) : Nat :=
  (options.filterMap flag?).foldl (· ||| ·) 0

/-- Whether an option is for the file system. -/
def isDataWord (option : String) : Bool :=
  (flag? option).isNone && option != "rw"

/-- The options for the file system. -/
def dataWords (options : List String) : List String :=
  options.filter isDataWord

/-- The text for the file system. -/
def data (options : List String) : String :=
  ",".intercalate (dataWords options)

/-- A call that mounts. -/
structure Call where
  source : String
  target : String
  filesystem : String
  flags : Nat
  data : String
deriving DecidableEq, Repr

/-- Whether a text reaches the kernel whole. -/
def isWhole (text : String) : Bool :=
  !text.toList.contains '\x00'

/-- The call that a request makes, unless one of its texts would be cut short. -/
def call (request : Request) : Except ErrorCode Call :=
  let data := data request.options
  if isWhole request.device && isWhole request.point && isWhole request.filesystem
      && isWhole data then
    .ok ⟨request.device, request.point, request.filesystem, flags request.options, data⟩
  else .error .genericError

/-- The target of a call that unmounts, unless it would be cut short. -/
def unmountTarget (point : String) : Except ErrorCode String :=
  if isWhole point then .ok point else .error .genericError

/-- A failure number as the kernel's 32-bit integer. -/
def number (n : Int) : Int :=
  n.bmod UInt32.size

/-- What a failure to mount is reported as. -/
def mountFailure : Option Int → ErrorCode
  | some n =>
    if number n = 16 then .mountPointBusy
    else if number n = 19 then .unsupportedFstype
    else .genericError
  | none => .genericError

/-- What a failure to unmount is reported as. -/
def unmountFailure : Option Int → ErrorCode
  | some n =>
    if number n = 16 then .mountPointBusy
    else if number n = 22 then .deviceNotMounted
    else .genericError
  | none => .genericError

/-! ## System calls -/

/-- What the kernel is asked for. -/
inductive SystemCall where
  | mount (call : Call)
  | unmount (target : String) (flags : Nat)
deriving DecidableEq, Repr

/-- A kernel with state `σ`: it carries out what it is asked for or fails, which may come without a
number. -/
abbrev System (σ : Type) : Type :=
  SystemCall → σ → Except (Option Int) Unit × σ

section

variable {σ : Type}

/-- Asks the kernel, unless there is a reason not to, and reports how it failed. -/
def ask (system : System σ) (failure : Option Int → ErrorCode) (asked : Except ErrorCode SystemCall)
    (state : σ) : Except ErrorCode Unit × σ :=
  match asked with
  | .error code => (.error code, state)
  | .ok asked =>
    let (outcome, state) := system asked state
    (outcome.mapError failure, state)

/-- Carries out a request. -/
def mount (system : System σ) (request : Request) : σ → Except ErrorCode Unit × σ :=
  ask system mountFailure ((call request).map .mount)

/-- Undoes what is mounted at a point. -/
def unmount (system : System σ) (point : String) : σ → Except ErrorCode Unit × σ :=
  ask system unmountFailure ((unmountTarget point).map fun target => .unmount target 0)

end

/-! ## The mount table -/

/-- How one option of a mount is written. -/
def optionText : String × Option String → String
  | (key, some value) => key ++ "=" ++ value
  | (key, none) => key

/-- The options of a mount without those that a later one of the same key replaces. -/
def lastOfEach : List (String × Option String) → List (String × Option String)
  | [] => []
  | option :: rest =>
    if rest.any fun other => other.1 == option.1 then lastOfEach rest
    else option :: lastOfEach rest

/-- The options of a mount as one text: each key once, in order, between commas. -/
def optionsText (options : List (String × Option String)) : String :=
  ",".intercalate (((lastOfEach options).map optionText).mergeSort fun a b => decide (a ≤ b))

/-! ## Powering off -/

/-- The file through which a device is detached, below the directory of block devices. -/
def detachFile? (blocks device : String) : Option String :=
  (Path.fileName? device).map fun name => Path.join (Path.join blocks name) "device/delete"

/-- Detaches a device by writing to its file. -/
def poweroff (files : FileTree) (blocks device : String) : Except ErrorCode FileTree :=
  match detachFile? blocks device with
  | none => .error .noSuchRemovableDevice
  | some file =>
    if files.exists? file then
      match files.writeFile file [49] with
      | .ok files => .ok files
      | .error _ => .error .genericError
    else .error .noSuchRemovableDevice

end RemovableMedia.Mount.Kernel

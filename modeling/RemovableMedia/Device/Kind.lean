/-!
# Kinds of devices

The closed sets of words that classify a device: what kind of thing it is, what hardware it is,
and what state its medium is in.  Each word is read back as what it stands for.
-/

set_option autoImplicit false

namespace RemovableMedia.Device

/-- The coarse classification of a device. -/
inductive Kind where
  /-- A part of a disk. -/
  | partition
  /-- A disk or card, which is ready as soon as it is present. -/
  | stateless
  /-- A drive whose medium comes and goes. -/
  | stateful
deriving DecidableEq, Repr

namespace Kind

/-- Every kind. -/
def all : List Kind := [partition, stateless, stateful]

/-- The word for a kind on the wire. -/
def word : Kind → String
  | partition => "partition"
  | stateless => "device"
  | stateful => "stateful_device"

/-- The word for a kind in JSON. -/
def jsonWord : Kind → String
  | partition => "partition"
  | stateless => "stateless_device"
  | stateful => "stateful_device"

/-- The kind that a word on the wire stands for. -/
def ofWord? (text : String) : Option Kind :=
  all.find? fun kind => kind.word == text

/-- The kind that a word in JSON stands for. -/
def ofJsonWord? (text : String) : Option Kind :=
  all.find? fun kind => kind.jsonWord == text

/-- A word on the wire is read back as its kind. -/
@[simp]
theorem ofWord?_word (kind : Kind) : ofWord? kind.word = some kind := by
  cases kind <;> decide

/-- A word in JSON is read back as its kind. -/
@[simp]
theorem ofJsonWord?_jsonWord (kind : Kind) : ofJsonWord? kind.jsonWord = some kind := by
  cases kind <;> decide

end Kind

/-- The hardware of a whole device. -/
inductive Subtype where
  | removableDisk
  | sdCard
  | cdrom
  | unknown
deriving DecidableEq, Repr

namespace Subtype

/-- Every subtype. -/
def all : List Subtype := [removableDisk, sdCard, cdrom, unknown]

/-- The word for a subtype. -/
def word : Subtype → String
  | removableDisk => "removable_disk"
  | sdCard => "sd_card"
  | cdrom => "cdrom"
  | unknown => "unknown"

/-- The subtype that a word stands for. -/
def ofWord? (text : String) : Option Subtype :=
  all.find? fun subtype => subtype.word == text

/-- A word is read back as its subtype. -/
@[simp]
theorem ofWord?_word (subtype : Subtype) : ofWord? subtype.word = some subtype := by
  cases subtype <;> decide

end Subtype

/-- The state of the medium in a drive. -/
inductive MediaState where
  | unknown
  /-- No medium is inserted. -/
  | empty
  /-- The medium is blank. -/
  | clear
  /-- The medium has data. -/
  | ok
deriving DecidableEq, Repr

namespace MediaState

/-- Every state. -/
def all : List MediaState := [unknown, empty, clear, ok]

/-- The word for a state. -/
def word : MediaState → String
  | unknown => "unknown"
  | empty => "empty"
  | clear => "clear"
  | ok => "ok"

/-- The state that a word stands for. -/
def ofWord? (text : String) : Option MediaState :=
  all.find? fun state => state.word == text

/-- A word is read back as its state. -/
@[simp]
theorem ofWord?_word (state : MediaState) : ofWord? state.word = some state := by
  cases state <;> decide

end MediaState

end RemovableMedia.Device

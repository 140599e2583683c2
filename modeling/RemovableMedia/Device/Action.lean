/-!
# Device actions

What can happen to a device.  Coming online counts as being added and going offline as being
removed.
-/

set_option autoImplicit false

namespace RemovableMedia.Device

/-- What happened to a device. -/
inductive Action where
  | add
  | online
  | remove
  | offline
  | change
deriving DecidableEq, Repr

namespace Action

/-- Every action. -/
def all : List Action := [add, online, remove, offline, change]

/-- The word for an action. -/
def word : Action → String
  | add => "add"
  | online => "online"
  | remove => "remove"
  | offline => "offline"
  | change => "change"

/-- The action that a word stands for. -/
def ofWord? (text : String) : Option Action :=
  all.find? fun action => action.word == text

/-- Whether the action brings a device in. -/
def isInsert : Action → Bool
  | add | online => true
  | _ => false

/-- Whether the action takes a device away. -/
def isRemoval : Action → Bool
  | remove | offline => true
  | _ => false

/-- A word is read back as its action. -/
@[simp]
theorem ofWord?_word (action : Action) : ofWord? action.word = some action := by
  cases action <;> decide

end Action

end RemovableMedia.Device

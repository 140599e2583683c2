/-!
# Error codes

The closed set of reasons a request can be refused for, as they are reported to a client.
-/

set_option autoImplicit false

namespace RemovableMedia

/-- Why the daemon refused a request. -/
inductive ErrorCode where
  | genericError
  | noSuchRemovableDevice
  | fstypeNotRecognized
  | unsupportedFstype
  | deviceAlreadyMounted
  | deviceNotMounted
  | failedParsingMountOptions
  | mountPointBusy
  | unknown
deriving DecidableEq, Repr

namespace ErrorCode

/-- Every code, in the order in which they are numbered. -/
def all : List ErrorCode :=
  [genericError, noSuchRemovableDevice, fstypeNotRecognized, unsupportedFstype,
    deviceAlreadyMounted, deviceNotMounted, failedParsingMountOptions, mountPointBusy, unknown]

/-- The word that stands for a code on the wire. -/
def word : ErrorCode → String
  | genericError => "generic_error"
  | noSuchRemovableDevice => "no_such_removable_device"
  | fstypeNotRecognized => "fstype_not_recognized"
  | unsupportedFstype => "unsupported_fstype"
  | deviceAlreadyMounted => "device_already_mounted"
  | deviceNotMounted => "device_not_mounted"
  | failedParsingMountOptions => "failed_parsing_mount_options"
  | mountPointBusy => "mount_point_busy"
  | unknown => "unknown"

/-- The code that a word stands for. -/
def ofWord? (text : String) : Option ErrorCode :=
  all.find? fun code => code.word == text

/-- What is said of a word that stands for no code. -/
def unknownWordMessage (text : String) : String :=
  "Invalid error_code: " ++ text ++ " (expected a known error code)"

/-- Every word is read back as its code. -/
@[simp]
theorem ofWord?_word (code : ErrorCode) : ofWord? code.word = some code := by
  cases code <;> decide

end ErrorCode

end RemovableMedia

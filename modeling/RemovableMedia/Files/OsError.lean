/-!
# Failures of the operating system

The reasons for which an operation on files and sockets fails, with the texts under which they are
reported.  Those that the kernel numbers carry their number.
-/

set_option autoImplicit false

namespace RemovableMedia

/-- Why an operation on files or sockets failed. -/
inductive OsError where
  | notFound
  | noSuchDevice
  | alreadyExists
  | notDirectory
  | isDirectory
  | invalidArgument
  | brokenPipe
  | nameTooLong
  | directoryNotEmpty
  | notSocket
  | addressInUse
  | connectionRefused
  /-- A file name holds a NUL byte. -/
  | nulInName
  /-- A socket path holds a NUL byte. -/
  | nulInSocketPath
  /-- A socket path does not fit into a socket address. -/
  | socketPathTooLong
  /-- The content of a file is not text. -/
  | notText
deriving DecidableEq, Repr

namespace OsError

/-- The kernel's wording and number of a failure. -/
def numbered (text : String) (number : Nat) : String :=
  s!"{text} (os error {number})"

/-- How a failure is worded. -/
def message : OsError → String
  | notFound => numbered "No such file or directory" 2
  | noSuchDevice => numbered "No such device or address" 6
  | alreadyExists => numbered "File exists" 17
  | notDirectory => numbered "Not a directory" 20
  | isDirectory => numbered "Is a directory" 21
  | invalidArgument => numbered "Invalid argument" 22
  | brokenPipe => numbered "Broken pipe" 32
  | nameTooLong => numbered "File name too long" 36
  | directoryNotEmpty => numbered "Directory not empty" 39
  | notSocket => numbered "Socket operation on non-socket" 88
  | addressInUse => numbered "Address already in use" 98
  | connectionRefused => numbered "Connection refused" 111
  | nulInName => "file name contained an unexpected NUL byte"
  | nulInSocketPath => "paths must not contain interior null bytes"
  | socketPathTooLong => "path must be shorter than SUN_LEN"
  | notText => "stream did not contain valid UTF-8"

end OsError

end RemovableMedia

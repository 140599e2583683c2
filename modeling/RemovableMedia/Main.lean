import RemovableMedia.Control.Request
import RemovableMedia.Control.Supervision

/-!
# The program

Two tools in one program: the control tool talks to a daemon, and the daemon's tool supervises one.
The first argument names the tool and the others are its command line.  What stands here only
fetches what a tool looks at, which is the environment, some files and the lines of the daemon, and
prints what the tool reports.

A connection is whatever can be opened for reading and writing under the path of the socket.  The
program does not listen to the kernel and sends no signals, so where a daemon is to be started or
stopped it reports that it could not.
-/

set_option autoImplicit false

namespace RemovableMedia.Program

open RemovableMedia.Control (Decision Invocation Report Request Supervision)

/-- Prints a report and returns its status. -/
def finish (report : Report) : IO UInt32 := do
  IO.print report.output
  IO.eprint report.errors
  return report.code.toUInt32

/-- Whether there is something at a path. -/
def isPresent (path : String) : IO Bool := do
  match ← (IO.FS.realPath path).toBaseIO with
  | .ok _ => return true
  | .error _ => return false

/-- Whether somebody else holds the lock of a file. -/
def isLocked (path : String) : IO Bool := do
  match ← (IO.FS.Handle.mk path .read).toBaseIO with
  | .ok handle => return !(← handle.tryLock)
  | .error _ => return false

/-- The files together with what is at a path; something that cannot be read counts as a socket. -/
def fetch (files : FileTree) (path : String) : IO FileTree := do
  match ← (IO.FS.readBinFile path).toBaseIO with
  | .ok content => return files.writeFileWithParents path content.toList
  | .error _ => return if ← isPresent path then (files.bindSocket path).1 else files

/-- The files together with the entry of a process, if there is such a process. -/
def fetchProcess (files : FileTree) (pid : Nat) : IO FileTree := do
  let path := s!"/proc/{pid}"
  return if ← isPresent path then (files.makeDirectories path).1 else files

/-- The files that the daemon's tool looks at under a configuration. -/
def fetchState (files : FileTree) (config : Config) : IO FileTree := do
  let files ← fetch (← fetch files config.pidFile) config.socketPath
  match (files.readText config.pidFile).toOption.bind Control.processNumber? with
  | some pid => fetchProcess files pid
  | none => return files

/-- What is reported of a decision. -/
def announce : Decision → Report
  | .report report => report
  | .launch _ _ => .failed 1 "Error: Failed to open udev event source"
  | .terminate pid =>
    ⟨1, s!"Stopping daemon (PID {pid})...\n",
      s!"Error: Failed to send SIGTERM to process {pid}\n"⟩

/-- Runs the daemon's tool. -/
def supervise (supervision : Supervision) (environment : Option String) : IO UInt32 := do
  let files ← fetch .empty (supervision.config.getD Config.usualPath)
  match Config.load files supervision.config environment with
  | .error _ => finish (announce (supervision.run files environment fun _ => false))
  | .ok config =>
    let files ← fetchState files config
    let held ← isLocked config.pidFile
    finish (announce (supervision.run files environment fun path => held && path == config.pidFile))

/-- Whether all that a command waits for has arrived. -/
def isAnswered (command : Command) (session : Session) : Bool :=
  match (session.request command).1 with
  | .error (.timeout _) => false
  | _ => true

/-- The session after one more line of the daemon, or after the end. -/
def hear (connection : IO.FS.Handle) (session : Session) : IO Session := do
  match ← connection.getLine.toBaseIO with
  | .ok "" => return session.finish
  | .ok line => return session.receive (Text.Utf8.encode line)
  | .error _ => return session.finish

/-- Listens until all that a command waits for has arrived. -/
partial def await (connection : IO.FS.Handle) (command : Command) (session : Session) :
    IO Session := do
  if isAnswered command session then return session
  await connection command (← hear connection session)

/-- Prints notifications as they come. -/
partial def watch (connection : IO.FS.Handle) (session : Session) : IO UInt32 := do
  let session ← hear connection session
  match session.nextNotification with
  | (.ready event, session) =>
    IO.print event.line.wire
    (← IO.getStdout).flush
    watch connection session
  | (.failed _, _) => finish (Request.monitor.run session)
  | (.silence, session) => watch connection session

/-- Carries out a request over a connection. -/
def converse (connection : IO.FS.Handle) (request : Request) (session : Session) :
    IO UInt32 := do
  match request.command? with
  | none => watch connection session
  | some command =>
    connection.putStr command.line.wire
    connection.flush
    finish (request.run (← await connection command session))

/-- Runs the control tool. -/
def control (invocation : Invocation) (environment : Option String) : IO UInt32 := do
  let path := invocation.socketPath environment
  match ← (IO.FS.Handle.mk path .readWrite).toBaseIO with
  | .ok connection =>
    converse connection invocation.request (.start (invocation.timeout * 1000))
  | .error _ =>
    let reason := if ← isPresent path then OsError.connectionRefused else .notFound
    finish (Control.failureReport (.connect path reason))

/-- How the program is used. -/
def usage : Report :=
  .failed 2 "usage: (mediactl | mediad) [arguments]"

/-- Runs the tool that a command line names. -/
def run (arguments : List String) (environment : Option String) : IO UInt32 :=
  match arguments with
  | "mediactl" :: rest =>
    match Invocation.parse? rest with
    | some invocation => control invocation environment
    | none => finish usage
  | "mediad" :: rest =>
    match Supervision.parse? rest with
    | some supervision => supervise supervision environment
    | none => finish usage
  | _ => finish usage

end RemovableMedia.Program

/-- Runs the tool that the command line names. -/
def main (arguments : List String) : IO UInt32 := do
  RemovableMedia.Program.run arguments (← IO.getEnv "MEDIAD_SOCKET")

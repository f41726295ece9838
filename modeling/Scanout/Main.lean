import Scanout.Program.Launch
import Scanout.Settings.Decode
import Scanout.Settings.Location

/-!
# The command line

Reads the environment and the settings file, and runs a session. Control requests are answered as on
a file that is no display, because there is no way to make them from here.
-/

namespace Scanout.CommandLine

/-- The variable of the environment that users set to filter the log. -/
def filterVariable : String := "RUST_LOG"

def errnoOf : IO.Error → Errno
  | .noFileOrDirectory _ code _ | .permissionDenied _ code _ | .inappropriateType _ code _
  | .invalidArgument _ code _ | .resourceExhausted _ code _ => ⟨code⟩
  | .otherError code _ | .resourceBusy code _ | .noSuchThing _ code _ => ⟨code⟩
  | _ => Errno.invalidArgument

/-- Whether the way to a file can be followed, or why not. -/
def followPath (path : String) : IO (Except Errno Unit) := do
  try
    let _ ← IO.FS.realPath path
    return .ok ()
  catch e => return .error (errnoOf e)

def lookAt (path : String) : IO SettingsFile := do
  match ← followPath path with
  | .error cause =>
    return if cause = Errno.noEntry ∨ cause = Errno.notADirectory then .absent else .hidden cause
  | .ok () =>
    try
      return .holding (← IO.FS.readBinFile path).toList
    catch e => return .unreadable (errnoOf e)

def answerRequest : (r : Kernel.Request) → IO (Except Errno r.Reply)
  | .openNode path => do
    try
      let _ ← IO.FS.Handle.mk path .readWrite
      return .ok ()
    catch e => return .error (errnoOf e)
  | _ => return .error Errno.notADevice

def perform {α : Type} (l : Session.Launch) : Kernel.Program α → IO α
  | .result value => return value
  | .report notice next => do
    IO.eprint (l.shown notice)
    perform l next
  | .request r next => do
    perform l (next (← answerRequest r))

def runSession : IO UInt32 := do
  let path := Settings.defaultPath (← IO.getEnv "HOME") (← IO.getEnv "XDG_CONFIG_HOME")
  let file ← lookAt path
  let ending ← match Session.launch Settings.ofText ⟨path, file, ← IO.getEnv filterVariable⟩ with
    | .error messages => pure (.error messages)
    | .ok l => do
      IO.eprint l.preface
      perform l (Session.run l.settings)
  IO.eprint (Session.endingText ending)
  return Session.exitCode ending

end Scanout.CommandLine

def main : IO UInt32 := Scanout.CommandLine.runSession

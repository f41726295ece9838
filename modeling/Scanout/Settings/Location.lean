import Scanout.Log.Notice
import Scanout.Settings.Validate

/-!
# Where settings are, and loading them

The settings file lies in a directory of its own below the user's directory for settings. Only an
absolute path counts as one that was set.

Without a file the defaults hold. A file that is there must be readable, and what it says must be
settings that are valid. But a file is there only if its metadata can be read: one that cannot be
looked at is passed over like one that does not exist.
-/

namespace Scanout

namespace Settings

/-- A path below another. A separator that is there already is not doubled. -/
def below (directory name : String) : String :=
  if directory.isEmpty || directory.endsWith "/" then directory ++ name
  else directory ++ "/" ++ name

def fallbackHome : String := "/root"

def baseDirectory (home configHome : Option String) : String :=
  match configHome.filter (·.startsWith "/") with
  | some directory => directory
  | none => below ((home.filter (!·.isEmpty)).getD fallbackHome) ".config"

def defaultPath (home configHome : Option String) : String :=
  below (below (baseDirectory home configHome) "primeplane") "config.toml"

end Settings

/-- What is at a path. -/
inductive SettingsFile where
  | absent
  /-- A file whose metadata cannot be read, as in a directory that may not be searched. -/
  | hidden (cause : Errno)
  | unreadable (cause : Errno)
  | holding (bytes : List UInt8)
  deriving DecidableEq, Repr

inductive LoadFailure where
  | unreadable (path : String) (cause : String)
  | malformed (path : String)
  | invalid (error : SettingsError)
  deriving DecidableEq, Repr

/-- What was tried and why it failed. What is wrong with a malformed text is not told. -/
def LoadFailure.messages : LoadFailure → List String
  | .unreadable path cause => [s!"Failed to read config file: {path}", cause]
  | .malformed path => [s!"Failed to parse config file: {path}"]
  | .invalid error => error.messages

namespace Settings

def readText (path : String) (bytes : List UInt8) : Except LoadFailure String :=
  match String.fromUTF8? ⟨bytes.toArray⟩ with
  | some text => .ok text
  | none => .error (.unreadable path "stream did not contain valid UTF-8")

/-- Loads settings from a file whose text `decode` understands. -/
def load (decode : String → Option Settings) (path : String) (file : SettingsFile) :
    List Notice × Except LoadFailure Settings :=
  match file with
  | .absent | .hidden _ => ([.settingsAbsent path], .ok {})
  | .unreadable cause => ([], .error (.unreadable path cause.message))
  | .holding bytes =>
    match readText path bytes with
    | .error e => ([], .error e)
    | .ok text =>
      match decode text with
      | none => ([], .error (.malformed path))
      | some settings =>
        ([.settingsLoaded path],
          match settings.validate with
          | .ok () => .ok settings
          | .error e => .error (.invalid e))

end Settings

end Scanout

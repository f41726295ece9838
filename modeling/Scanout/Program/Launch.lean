import Scanout.Log.Filter
import Scanout.Program.Console
import Scanout.Program.Session
import Scanout.Settings.Location

/-!
# Starting the program

The settings are loaded before there is a log, so what is noticed on the way is not shown. The log
shows what the environment asks for, or else what the settings ask for.
-/

namespace Scanout.Session

structure Environment where
  /-- Where the settings file is, and what is there. -/
  path : String
  file : SettingsFile
  logFilter : Option String

structure Launch where
  settings : Settings
  filter : Log.Filter
  /-- What is wrong with the log filter. -/
  warnings : List String

/-- Loads the settings, whose text `decode` understands, and sets up the log. -/
def launch (decode : String → Option Settings) (e : Environment) : Except (List String) Launch :=
  match (Settings.load decode e.path e.file).2 with
  | .error failure => .error ("Failed to load configuration" :: failure.messages)
  | .ok settings =>
    let (filter, warnings) := Log.Filter.ofText (e.logFilter.getD settings.general.logLevel)
    .ok { settings, filter, warnings }

def Launch.shown (l : Launch) (n : Notice) : String :=
  if l.filter.passes n then Console.noticeText n else ""

def endingText : Ending → String
  | .ok () => ""
  | .error messages => Console.errorText messages

def exitCode : Ending → UInt32
  | .ok () => 0
  | .error _ => 1

def Launch.preface (l : Launch) : String := String.join (l.warnings.map (· ++ "\n"))

def Launch.transcript (l : Launch) (notices : List Notice) (ending : Ending) : String :=
  l.preface ++ String.join (notices.map l.shown) ++ endingText ending

/-- The whole program on a kernel that answers from a state: what it shows, how it ends, and the
state it leaves. -/
def play {σ : Type} (serve : (r : Kernel.Request) → σ → Except Errno r.Reply × σ)
    (decode : String → Option Settings) (e : Environment) (s : σ) : String × Ending × σ :=
  match launch decode e with
  | .error messages => (endingText (.error messages), .error messages, s)
  | .ok l =>
    let (events, ending, s) := (run l.settings).run serve s
    (l.transcript (noticesOf events) ending, ending, s)

end Scanout.Session

import Scanout.Log.Notice
import Scanout.Text.Visible

/-!
# What the user sees

Notices are one line each, with the level, where they come from, and the text. An error is told with
all its causes.
-/

namespace Scanout.Console

def blanks (count : Nat) : String := String.ofList (List.replicate count ' ')

def indentLines (count : Nat) (text : String) : String :=
  ("\n" ++ blanks count).intercalate (text.splitOn "\n")

def levelColumn (level : Level) : String := level.name ++ blanks (5 - level.name.length)

/-- As in `[INFO  presenter::config] text`, with its line end. Control sequences are left out, and
one that is open at the end takes the line end with it. -/
def noticeText (n : Notice) : String :=
  Text.visible s!"[{levelColumn n.level} {n.origin}] {indentLines 4 n.text}\n"

def numberedCause (number : Nat) (cause : String) : String :=
  let digits := toString number
  blanks (5 - digits.length) ++ digits ++ ": " ++ indentLines 7 cause

def errorText : List String → String
  | [] => "Error: \n"
  | [message] => s!"Error: {message}\n"
  | [message, cause] => s!"Error: {message}\n\nCaused by:\n    {indentLines 4 cause}\n"
  | message :: causes =>
    let numbered := causes.zipIdx.map fun (cause, number) => numberedCause number cause
    s!"Error: {message}\n\nCaused by:\n" ++ "\n".intercalate numbered ++ "\n"

end Scanout.Console

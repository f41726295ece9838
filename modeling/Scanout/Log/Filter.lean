import Scanout.Log.Notice
import Scanout.Pattern.Compiled
import Scanout.Text.Basic

/-!
# Log filters

A filter is a list of directives. Of those whose name begins the origin of a notice, the one with
the longest name decides how severe the notice has to be; of two as long, the later one. A pattern
behind a slash keeps only notices that it occurs in.
-/

namespace Scanout.Log

/-- Lets notices pass whose rank is at most the limit. -/
structure Directive where
  /-- None for the directive that holds for every origin. -/
  name : Option String
  limit : Nat
  deriving DecidableEq, Repr

structure Filter where
  directives : List Directive
  pattern : Option Pattern.Expression

def limitOf (word : String) : Option Nat :=
  ["off", "error", "warn", "info", "debug", "trace"].idxOf? word.toLower

def noLimit : Nat := Level.trace.rank

/-- Reads one directive; if it is none, yields the part of it to complain about. -/
def Directive.ofText (text : String) : Except String Directive :=
  match text.splitOn "=" with
  | [word] =>
    match limitOf word with
    | some limit => .ok ⟨none, limit⟩
    | none => .ok ⟨some word, noLimit⟩
  | [name, word] =>
    let word := Text.trim word
    if word.isEmpty then .ok ⟨some name, noLimit⟩
    else
      match limitOf word with
      | some limit => .ok ⟨some name, limit⟩
      | none => .error word
  | _ => .error text

namespace Filter

def insert (d : Directive) : List Directive → List Directive
  | [] => [d]
  | first :: rest => if first.name = d.name then d :: rest else first :: insert d rest

def warning (what : String) : String := s!"warning: {what}, ignoring it"

def unreadable (part : String) : String := s!"invalid logging spec '{part}'"

/-- Reads directives with commas between them. What is none is left out with a warning. -/
def readDirectives : List String → List Directive → List Directive × List String
  | [], directives => (directives, [])
  | part :: rest, directives =>
    let part := Text.trim part
    if part.isEmpty then readDirectives rest directives
    else
      match Directive.ofText part with
      | .ok d => readDirectives rest (insert d directives)
      | .error cause =>
        let (directives, warnings) := readDirectives rest directives
        (directives, warning (unreadable cause) :: warnings)

def readPattern (text : String) : Option Pattern.Expression × List String :=
  match Pattern.compile text with
  | .ok e => (some e, [])
  | .error failure => (none, [warning s!"invalid regex filter - {failure.message text}"])

/-- Reads a filter, with warnings about what is left out. Without any directive errors pass. -/
def ofText (text : String) : Filter × List String :=
  let finish (directives : List Directive) : List Directive :=
    if directives.isEmpty then [⟨none, Level.error.rank⟩] else directives
  match text.splitOn "/" with
  | [names] =>
    let (directives, warnings) := readDirectives (names.splitOn ",") []
    (⟨finish directives, none⟩, warnings)
  | [names, pattern] =>
    let (directives, warnings) := readDirectives (names.splitOn ",") []
    let (pattern, more) := readPattern pattern
    (⟨finish directives, pattern⟩, warnings ++ more)
  | _ => (⟨finish [], none⟩, [warning (unreadable text ++ " (too many '/'s)")])

def nameLength (d : Directive) : Nat := (d.name.map String.utf8ByteSize).getD 0

def directiveFor? (origin : String) (directives : List Directive) : Option Directive :=
  let applies (d : Directive) : Bool := d.name.all fun name => origin.startsWith name
  let better (best : Option Directive) (d : Directive) : Option Directive :=
    match best with
    | some b => if nameLength d < nameLength b then some b else some d
    | none => some d
  (directives.filter applies).foldl better none

def passes (f : Filter) (n : Notice) : Bool :=
  let severe := (directiveFor? n.origin f.directives).any fun d => n.level.rank ≤ d.limit
  severe && f.pattern.all fun pattern => pattern.occursIn n.text

end Filter

end Scanout.Log

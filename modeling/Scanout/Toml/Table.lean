import Scanout.Toml.Value

/-!
# Adding to tables

What a document says is added entry by entry. A key is never set twice. A dotted key adds to tables
that other dotted keys made, and never to those under a header or between braces. A header may
name a table that was only passed on the way so far, and passes through every table that is not
between braces; an array that headers made is passed through its last element.
-/

namespace Scanout.Toml

def updateKey (key : String) (f : Option Value → Option Value) : Entries → Option Entries
  | [] => (f none).map fun value => [(key, value)]
  | (name, value) :: rest =>
    if name = key then (f (some value)).map fun value => (name, value) :: rest
    else (updateKey key f rest).map ((name, value) :: ·)

def updateLast (f : Value → Option Value) : List Value → Option (List Value)
  | [] => none
  | [last] => (f last).map ([·])
  | first :: rest => (updateLast f rest).map (first :: ·)

/-- The step into a table on the path of a dotted key or of a header. -/
def enter (dotted : Bool) (step : TableKind → Entries → Option Value) :
    Option Value → Option Value
  | none => step (if dotted then .dotted else .implicit) []
  | some (.table kind entries) =>
    if kind = .inline ∨ (dotted ∧ kind = .explicit) then none else step kind entries
  | some (.tables elements) =>
    let last : Value → Option Value
      | .table kind entries => step kind entries
      | _ => none
    (updateLast last elements).map .tables
  | some _ => none

/-- Changes the table at the end of a path. Tables that are missing on the way are made. -/
def descend (dotted : Bool) (change : TableKind → Entries → Option Entries) :
    List String → TableKind → Entries → Option Value
  | [], kind, entries => (change kind entries).map (.table kind)
  | key :: path, kind, entries =>
    (updateKey key (enter dotted (descend dotted change path)) entries).map (.table kind)

def entries? : Value → Option Entries
  | .table _ entries => some entries
  | _ => none

/-- Changes the table at the end of a path that starts in a table of a kind. -/
def descendFrom (kind : TableKind) (dotted : Bool) (path : List String)
    (change : TableKind → Entries → Option Entries) (start : Entries) : Option Entries :=
  (descend dotted change path kind start).bind entries?

def addKey (key : String) (value : Value) : Entries → Option Entries :=
  updateKey key fun
    | none => some value
    | some _ => none

def setDotted (path : List String) (key : String) (value : Value) : Entries → Option Entries :=
  descendFrom .explicit (!path.isEmpty) path fun kind entries =>
    if (kind == .dotted) == path.isEmpty then none else addKey key value entries

def setUnder (header path : List String) (key : String) (value : Value) :
    Entries → Option Entries :=
  descendFrom .explicit false header fun _ => setDotted path key value

/-- Opens a table by a header: a new one, or one that was only passed on the way so far. -/
def openTable (path : List String) (key : String) : Entries → Option Entries :=
  descendFrom .explicit false path fun _ => updateKey key fun
    | none => some (.table .explicit [])
    | some (.table .implicit entries) => some (.table .explicit entries)
    | some _ => none

/-- Adds an element by a header to an array that headers made, or to a new one. -/
def openElement (path : List String) (key : String) : Entries → Option Entries :=
  let element := Value.table .explicit []
  descendFrom .explicit false path fun _ => updateKey key fun
    | none => some (.tables [element])
    | some (.tables elements) => some (.tables (elements ++ [element]))
    | some _ => none

end Scanout.Toml

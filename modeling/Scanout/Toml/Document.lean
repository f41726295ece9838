import Scanout.Toml.Scalar
import Scanout.Toml.Strings
import Scanout.Toml.Table

/-!
# Documents

A document is read line by line: headers open tables, and every other line sets a key. Arrays and
tables between braces may go over several lines and hold each other up to a bounded depth. Readers
that repeat take an amount of fuel, for which the length of the text is enough.
-/

namespace Scanout.Toml

/-- Arrays and tables may stand in each other so deep, and a key may have so many parts. -/
def maxDepth : Nat := 80

def isBareKeyChar (c : Char) : Bool := c.isAlphanum || c = '_' || c = '-'

def simpleKey (s : List Char) : Option (String × List Char) :=
  match quoted s with
  | some (text, rest) => some (String.ofList text, rest)
  | none =>
    let (key, rest) := s.span isBareKeyChar
    if key.isEmpty then none else some (String.ofList key, rest)

def moreKeys : (fuel : Nat) → List Char → Option (List String × List Char)
  | 0, s => some ([], s)
  | fuel + 1, s =>
    match skipBlanks s with
    | '.' :: rest => do
      let (key, rest) ← simpleKey (skipBlanks rest)
      let (keys, rest) ← moreKeys fuel rest
      some (key :: keys, rest)
    | rest => some ([], rest)

/-- A key: the path to a table, and the last part. The blanks behind it are skipped. -/
def dottedKey (s : List Char) : Option ((List String × String) × List Char) := do
  let (first, rest) ← simpleKey s
  let (keys, rest) ← moreKeys rest.length rest
  if maxDepth ≤ keys.length then none
  else
    match (first :: keys).getLast? with
    | some last => some (((first :: keys).dropLast, last), rest)
    | none => none

/-- The rest of an array behind its bracket or a comma. -/
def arrayItems (item : List Char → Option (Value × List Char)) :
    (fuel : Nat) → List Char → Option (List Value × List Char)
  | 0, _ => none
  | fuel + 1, s => do
    match ← skipLayout s with
    | ']' :: rest => some ([], rest)
    | s =>
      let (value, rest) ← item s
      match ← skipLayout rest with
      | ',' :: rest =>
        let (values, rest) ← arrayItems item fuel rest
        some (value :: values, rest)
      | ']' :: rest => some ([value], rest)
      | _ => none

def inlineEntries (item : List Char → Option (Value × List Char)) :
    (fuel : Nat) → Entries → List Char → Option (Entries × List Char)
  | 0, _, _ => none
  | fuel + 1, entries, s => do
    match ← skipLayout s with
    | '\x7d' :: rest => some (entries, rest)
    | s =>
      let ((path, key), rest) ← dottedKey s
      let rest ← expect '=' (← skipLayout rest)
      let (value, rest) ← item (← skipLayout rest)
      let entries ← setDotted path key value entries
      match ← skipLayout rest with
      | ',' :: rest => inlineEntries item fuel entries rest
      | '\x7d' :: rest => some (entries, rest)
      | _ => none

def scalar (s : List Char) : Option (Value × List Char) :=
  match stringText s with
  | some (text, rest) => some (.string (String.ofList text), rest)
  | none =>
    let (run, rest) := takeRun s
    (unquoted run).map (·, rest)

def value : (depth : Nat) → List Char → Option (Value × List Char)
  | 0, s => scalar s
  | depth + 1, s =>
    match s with
    | '[' :: rest => do
      let (items, rest) ← arrayItems (value depth) (rest.length + 1) rest
      some (.array items, rest)
    | '\x7b' :: rest => do
      let (entries, rest) ← inlineEntries (value depth) (rest.length + 1) [] rest
      some (.table .inline entries, rest)
    | s => scalar s

/-- What was read so far, and the path of the table that keys are set in. -/
structure State where
  root : Entries
  header : List String

def header (st : State) (s : List Char) : Option (State × List Char) := do
  let (isElement, s) := match s with
    | '[' :: rest => (true, rest)
    | rest => (false, rest)
  let ((path, key), s) ← dottedKey (skipBlanks s)
  let s ← expect ']' s
  let s ← if isElement then expect ']' s else some s
  let root ← if isElement then openElement path key st.root else openTable path key st.root
  some ({ root, header := path ++ [key] }, ← endLine s)

def keyLine (st : State) (s : List Char) : Option (State × List Char) := do
  let ((path, key), s) ← dottedKey s
  let (value, s) ← value maxDepth (skipBlanks (← expect '=' s))
  let root ← setUnder st.header path key value st.root
  some ({ st with root }, ← endLine s)

def lines : (fuel : Nat) → State → List Char → Option State
  | 0, _, _ => none
  | fuel + 1, st, s => do
    match ← skipLayout s with
    | [] => some st
    | '[' :: rest =>
      let (st, rest) ← header st rest
      lines fuel st rest
    | rest =>
      let (st, rest) ← keyLine st rest
      lines fuel st rest

/-- The entries of a whole document. A byte order mark in front of it is skipped. -/
def document (text : String) : Option Entries :=
  let s := match text.toList with
    | '\uFEFF' :: rest => rest
    | s => s
  (lines (s.length + 1) { root := [], header := [] } s).map State.root

end Scanout.Toml

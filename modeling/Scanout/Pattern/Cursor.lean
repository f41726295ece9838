import Scanout.Pattern.Refusal
import Scanout.Pattern.Syntax
import Scanout.Text.Basic

/-!
# Going through a pattern

A reader goes through a pattern character by character, and may refuse it. In verbose parts blanks
and comments between characters mean nothing.
-/

namespace Scanout.Pattern

structure Cursor where
  rest : List Char
  position : Position
  verbose : Bool
  /-- Names of groups so far, with their places. -/
  names : List (String × Span)

abbrev Reading (α : Type) : Type := StateT Cursor (Except Refusal) α

namespace Cursor

def bump (c : Cursor) : Cursor :=
  match c.rest with
  | [] => c
  | first :: rest => { c with rest, position := c.position.past first }

/-- Steps past blanks and comments. A comment goes up to the end of its line. -/
def skipFrom : (inComment : Bool) → List Char → Position → List Char × Position
  | _, [], p => ([], p)
  | true, c :: rest, p => skipFrom (c ≠ '\n') rest (p.past c)
  | false, c :: rest, p =>
    if Text.isBlank c then skipFrom false rest (p.past c)
    else if c = '#' then skipFrom true rest (p.past c)
    else (c :: rest, p)

def skip (c : Cursor) : Cursor :=
  if c.verbose then
    let (rest, position) := skipFrom false c.rest c.position
    { c with rest, position }
  else c

def bumpMany : Nat → Cursor → Cursor
  | 0, c => c
  | n + 1, c => bumpMany n c.bump

/-- The first character that means something. Of a comment only its mark is passed. -/
def peekFrom : (inComment : Bool) → List Char → Option Char
  | _, [] => none
  | inComment, c :: rest =>
    if Text.isBlank c then peekFrom inComment rest
    else if !inComment && c = '#' then peekFrom true rest
    else some c

/-- What stands behind the next character. -/
def peek? (c : Cursor) : Option Char :=
  let behind := c.rest.tail
  (if c.verbose then peekFrom false behind else none) <|> behind.head?

end Cursor

namespace Reading

def refuse {α : Type} (cause : Cause) (span : Span) (other : Option Span := none) : Reading α :=
  throw ⟨cause, span, other⟩

def position : Reading Position := return (← get).position

def char? : Reading (Option Char) := return (← get).rest.head?

def atEnd : Reading Bool := return (← get).rest.isEmpty

def bump : Reading Bool := do
  modify Cursor.bump
  return !(← atEnd)

def skip : Reading Unit := modify Cursor.skip

/-- Steps past a character and what means nothing behind it, and tells whether there is another. -/
def advance : Reading Bool := do
  if ← bump then
    skip
    return !(← atEnd)
  else return false

def accept (text : String) : Reading Bool := do
  let c ← get
  let chars := text.toList
  if chars.isPrefixOf c.rest then
    set (c.bumpMany chars.length)
    return true
  else return false

def here : Reading Span := return .empty (← position)

def since (p : Position) : Reading Span := return ⟨p, ← position⟩

def charSpan : Reading Span := do
  let c ← get
  return ⟨c.position, c.bump.position⟩

/-- An amount of fuel that is enough for every reader that steps past characters. -/
def fuel : Reading Nat := return (← get).rest.length + 1

end Reading

end Scanout.Pattern

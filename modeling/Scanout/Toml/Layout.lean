/-!
# Blanks, line ends and comments
-/

namespace Scanout.Toml

def isBlank (c : Char) : Bool := c = ' ' || c = '\t'

/-- Characters that may stand nowhere in a document by themselves. -/
def isControl (c : Char) : Bool := (c.toNat < 0x20 && c ≠ '\t') || c.toNat = 0x7F

def skipBlanks (s : List Char) : List Char := s.dropWhile isBlank

/-- What follows a line end. A carriage return alone is none. -/
def newline? : List Char → Option (List Char)
  | '\n' :: rest | '\r' :: '\n' :: rest => some rest
  | _ => none

def skipComment : List Char → Option (List Char)
  | [] => some []
  | '\n' :: rest => some ('\n' :: rest)
  | '\r' :: '\n' :: rest => some ('\r' :: '\n' :: rest)
  | c :: rest => if isControl c then none else skipComment rest

/-- Skips blanks, line ends and comments, starting inside a comment or outside. -/
def skipLayoutFrom : (inComment : Bool) → List Char → Option (List Char)
  | _, [] => some []
  | _, '\n' :: rest => skipLayoutFrom false rest
  | _, '\r' :: '\n' :: rest => skipLayoutFrom false rest
  | true, c :: rest => if isControl c then none else skipLayoutFrom true rest
  | false, c :: rest =>
    if c = '#' then skipLayoutFrom true rest
    else if isBlank c then skipLayoutFrom false rest
    else some (c :: rest)

def skipLayout (s : List Char) : Option (List Char) := skipLayoutFrom false s

def endLine (s : List Char) : Option (List Char) := do
  let s := skipBlanks s
  let s ← match s with
    | '#' :: rest => skipComment rest
    | _ => some s
  if s.isEmpty then some [] else newline? s

end Scanout.Toml

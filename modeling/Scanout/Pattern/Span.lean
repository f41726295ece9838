/-!
# Places in a pattern
-/

namespace Scanout.Pattern

/-- A place between two characters, by line and column, which count from one on. -/
structure Position where
  line : Nat
  column : Nat
  deriving DecidableEq, Repr

namespace Position

def start : Position := ⟨1, 1⟩

def past (p : Position) (c : Char) : Position :=
  if c = '\n' then ⟨p.line + 1, 1⟩ else ⟨p.line, p.column + 1⟩

def precedes (p other : Position) : Bool :=
  p.line < other.line || (p.line = other.line && p.column < other.column)

end Position

structure Span where
  first : Position
  last : Position
  deriving DecidableEq, Repr

namespace Span

def empty (p : Position) : Span := ⟨p, p⟩

def isOneLine (s : Span) : Bool := s.first.line = s.last.line

def precedes (s other : Span) : Bool :=
  s.first.precedes other.first || (s.first = other.first && s.last.precedes other.last)

end Span

end Scanout.Pattern

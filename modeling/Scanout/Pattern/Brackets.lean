import Scanout.Pattern.Escape

/-!
# Brackets

Sets of characters. Items stand side by side, and sets are combined by operators of two characters,
of which all bind alike and to the left.
-/

namespace Scanout.Pattern

open Reading

structure Items where
  items : List SetSyntax
  span : Span

namespace Items

def push (l : Items) (item : SetSyntax) : Items :=
  let first := if l.items.isEmpty then item.span.first else l.span.first
  { items := l.items ++ [item], span := ⟨first, item.span.last⟩ }

def toSet (l : Items) : SetSyntax :=
  match l.items with
  | [] => .nothing l.span
  | [item] => item
  | items => .union items l.span

end Items

def itemOf : Primitive → Reading SetSyntax
  | .literal l => return .literal l
  | .shorthand kind negated span => return .shorthand kind negated span
  | .property name span => return .property name span
  | p => refuse .classEscape p.span

def boundaryOf : Primitive → Reading Literal
  | .literal l => return l
  | p => refuse .rangeBoundary p.span

def setPrimitive : Reading Primitive := do
  match ← char? with
  | some '\\' => escape
  | some c =>
    let span ← charSpan
    let _ ← bump
    return .literal ⟨c, span, false⟩
  | none => refuse .escapeUnfinished (← here)

/-- A range, or an item alone. A hyphen in front of the closing bracket or of another hyphen makes
no range. `opened` is the bracket that has to be closed. -/
def rangeOrItem (opened : Span) : Reading SetSyntax := do
  let first ← setPrimitive
  skip
  if ← atEnd then refuse .bracketsUnclosed opened
  let behind := (← get).peek?
  if (← char?) ≠ some '-' || behind = some ']' || behind = some '-' then itemOf first
  else
    if !(← advance) then refuse .bracketsUnclosed opened
    let last ← setPrimitive
    let span : Span := ⟨first.span.first, last.span.last⟩
    let first ← boundaryOf first
    let last ← boundaryOf last
    if last.char < first.char then refuse .rangeOrder span
    return .range first last span

/-- A class by its name, as in `[:alpha:]`. Anything else is left where it is. -/
def asciiClass? : Reading (Option SetSyntax) := do
  let before ← get
  if ← accept "[:" then
    let negated ← accept "^"
    let rest := (← get).rest
    let name := rest.takeWhile (· ≠ ':')
    match AsciiClass.ofName? (String.ofList name) with
    | some kind =>
      modify (Cursor.bumpMany name.length)
      if ← accept ":]" then return some (.ascii kind negated (← since before.position))
    | none => pure ()
  set before
  return none

/-- Hyphens behind the opening bracket stand for themselves. -/
def leadingHyphens (start : Position) : (fuel : Nat) → Items → Reading Items
  | 0, l => return l
  | fuel + 1, l => do
    if (← char?) = some '-' then
      let l := l.push (.literal ⟨'-', ← charSpan, false⟩)
      if ← advance then leadingHyphens start fuel l
      else refuse .bracketsUnclosed (.empty start)
    else return l

/-- The opening bracket and what has a meaning of its own behind it: whether the set is negated, and
its first items. -/
def openBrackets : Reading (Bool × Items × Span) := do
  let start ← position
  if !(← advance) then refuse .bracketsUnclosed (← since start)
  let negated := (← char?) = some '^'
  if negated then
    if !(← advance) then refuse .bracketsUnclosed (← since start)
  let l ← leadingHyphens start (← fuel) { items := [], span := ← here }
  if l.items.isEmpty && (← char?) = some ']' then
    let l := l.push (.literal ⟨']', ← charSpan, false⟩)
    if !(← advance) then refuse .bracketsUnclosed (← since start)
    return (negated, l, ← since start)
  else return (negated, l, ← since start)

/-- What was read of a set: a set with an operator behind it, and items. -/
structure OpenSet where
  before : Option (SetSyntax × SetOperation)
  items : Items

namespace OpenSet

def toSet (o : OpenSet) : SetSyntax :=
  let last := o.items.toSet
  match o.before with
  | none => last
  | some (set, operation) => .combination operation set last ⟨set.span.first, last.span.last⟩

def push (o : OpenSet) (item : SetSyntax) : OpenSet := { o with items := o.items.push item }

end OpenSet

def operator? : Reading (Option SetOperation) := do
  if ← accept "&&" then return some .intersection
  else if ← accept "--" then return some .difference
  else if ← accept "~~" then return some .symmetricDifference
  else return none

/-- The rest of a set, with its closing bracket. `nested` reads a set in it. -/
def restOfBrackets (nested : Reading SetSyntax) (opened : Span) :
    (fuel : Nat) → OpenSet → Reading SetSyntax
  | 0, _ => refuse .bracketsUnclosed opened
  | fuel + 1, o => do
    skip
    match ← char? with
    | none => refuse .bracketsUnclosed opened
    | some ']' =>
      let _ ← bump
      return o.toSet
    | some '[' =>
      match ← asciiClass? with
      | some item => restOfBrackets nested opened fuel (o.push item)
      | none => restOfBrackets nested opened fuel (o.push (← nested))
    | some _ =>
      match ← operator? with
      | some operation =>
        let o := ⟨some (o.toSet, operation), { items := [], span := ← here }⟩
        restOfBrackets nested opened fuel o
      | none => restOfBrackets nested opened fuel (o.push (← rangeOrItem opened))

def brackets : (fuel : Nat) → Reading SetSyntax
  | 0 => do refuse .bracketsUnclosed (← here)
  | fuel + 1 => do
    let start ← position
    let (negated, items, opened) ← openBrackets
    let inner ← restOfBrackets (brackets fuel) opened (← Reading.fuel) ⟨none, items⟩
    return .brackets negated inner (← since start)

end Scanout.Pattern

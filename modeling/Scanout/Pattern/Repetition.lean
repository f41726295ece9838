import Scanout.Pattern.Cursor

/-!
# Repetitions

Operators behind a part of a pattern that say how often it is repeated.
-/

namespace Scanout.Pattern

open Reading

/-- The part that an operator stands behind, and the parts in front of it. -/
def repeatable (parts : List Syntax) : Reading (List Syntax × Syntax) := do
  match parts.getLast? with
  | some part =>
    if part.isRepeatable then return (parts.dropLast, part)
    else refuse .nothingRepeated (← here)
  | none => refuse .nothingRepeated (← here)

/-- An operator of one character, and the mark behind it that it takes as little as it can. -/
def shortRepetition (parts : List Syntax) (least : Nat) (most : Option Nat) :
    Reading (List Syntax) := do
  let (front, part) ← repeatable parts
  if (← bump) && (← char?) = some '?' then
    let _ ← bump
  return front ++ [.repeated part least most (← since part.span.first)]

def skipBlanks (step : Reading Unit) : (fuel : Nat) → Reading Unit
  | 0 => return
  | fuel + 1 => do
    if (← char?).any Text.isBlank then
      step
      skipBlanks step fuel

def digits : (fuel : Nat) → Reading (List Char)
  | 0 => return []
  | fuel + 1 => do
    match ← char? with
    | some c =>
      if c.isDigit then
        let _ ← advance
        return c :: (← digits fuel)
      else return []
    | none => return []

/-- Numbers have at most so many bits. -/
def countBits : Nat := 32

def number : Reading (Except Refusal Nat) := do
  skipBlanks (do let _ ← bump) (← fuel)
  let start ← position
  let text ← digits (← fuel)
  let span ← since start
  skipBlanks (do let _ ← advance) (← fuel)
  let value := text.foldl (fun n c => 10 * n + (c.toNat - '0'.toNat)) 0
  if text.isEmpty then return .error ⟨.countExpected, span, none⟩
  else if value < Nat.pow 2 countBits then return .ok value
  else return .error ⟨.decimalInvalid, span, none⟩

def bounds (start : Position) : Reading (Nat × Option Nat) := do
  let least ← number
  if ← atEnd then refuse .countUnclosed (← since start)
  if (← char?) = some ',' then
    if !(← advance) then refuse .countUnclosed (← since start)
    if (← char?) = some '\x7d' then return (← least, none)
    else
      let least ← least
      return (least, some (← (← number)))
  else
    let count ← least
    return (count, some count)

def countedRepetition (parts : List Syntax) : Reading (List Syntax) := do
  let start ← position
  let (front, part) ← repeatable parts
  if !(← advance) then refuse .countUnclosed (← since start)
  let (least, most) ← bounds start
  if (← char?) ≠ some '\x7d' then refuse .countUnclosed (← since start)
  if (← advance) && (← char?) = some '?' then
    let _ ← bump
  if most.any (· < least) then refuse .countOrder (← since start)
  return front ++ [.repeated part least most (← since part.span.first)]

end Scanout.Pattern

import Scanout.Pattern.Brackets
import Scanout.Pattern.Group
import Scanout.Pattern.Repetition

/-!
# Reading patterns
-/

namespace Scanout.Pattern

open Reading

/-- What was read of an alternation: its finished branches, and the parts of the last. -/
structure OpenBranches where
  first : Position
  branches : List Syntax
  start : Position
  parts : List Syntax

namespace OpenBranches

def startAt (p : Position) : OpenBranches :=
  { first := p, branches := [], start := p, parts := [] }

def branch (o : OpenBranches) (p : Position) : Syntax :=
  match o.parts with
  | [] => .empty ⟨o.start, p⟩
  | [part] => part
  | parts => .concatenation parts ⟨o.start, p⟩

/-- Begins another branch behind an operator. -/
def turn (o : OpenBranches) (p behind : Position) : OpenBranches :=
  { o with branches := o.branches ++ [o.branch p], start := behind, parts := [] }

def close (o : OpenBranches) (p : Position) : Syntax :=
  match o.branches with
  | [] => o.branch p
  | branches => .alternation (branches ++ [o.branch p]) ⟨o.first, p⟩

def push (o : OpenBranches) (part : Syntax) : OpenBranches := { o with parts := o.parts ++ [part] }

end OpenBranches

def primitive : Reading Syntax := do
  let span ← charSpan
  let single (s : Syntax) : Reading Syntax := do
    let _ ← bump
    return s
  match ← char? with
  | some '\\' => return (← escape).toSyntax
  | some '.' => single (.dot span)
  | some '^' => single (.assertion .lineStart span)
  | some '$' => single (.assertion .lineEnd span)
  | some c => single (.literal ⟨c, span, false⟩)
  | none => return .empty span

def bracketed : Reading Syntax := do
  match ← brackets (← fuel) with
  | .brackets negated inner span => return .brackets negated inner span
  | set => return .brackets false set set.span

/-- Reads up to the end of the pattern or the parenthesis that closes the group opened at `opened`,
which is stepped past. -/
def branches (opened : Option Span) : (fuel : Nat) → OpenBranches → Reading Syntax
  | 0, o => return o.close o.start
  | fuel + 1, o => do
    skip
    match ← char? with
    | none =>
      match opened with
      | some span => refuse .groupUnclosed span
      | none => return o.close (← position)
    | some ')' =>
      if opened.isNone then refuse .groupUnopened (← charSpan)
      let p ← position
      let _ ← bump
      return o.close p
    | some '|' =>
      let p ← position
      let _ ← bump
      branches opened fuel (o.turn p (← position))
    | some '(' =>
      match ← opening with
      | .flags changes span =>
        modify fun c => { c with verbose := (flagState? .verbose changes).getD c.verbose }
        branches opened fuel (o.push (.flags changes span))
      | .group changes span =>
        let verbose := (← get).verbose
        let inner := (flagState? .verbose (changes.getD [])).getD verbose
        modify fun c => { c with verbose := inner }
        let body ← branches (some span) fuel (.startAt (← position))
        modify fun c => { c with verbose }
        branches opened fuel (o.push (.group changes body (← since span.first)))
    | some '[' => branches opened fuel (o.push (← bracketed))
    | some '?' => branches opened fuel { o with parts := ← shortRepetition o.parts 0 (some 1) }
    | some '*' => branches opened fuel { o with parts := ← shortRepetition o.parts 0 none }
    | some '+' => branches opened fuel { o with parts := ← shortRepetition o.parts 1 none }
    | some '\x7b' => branches opened fuel { o with parts := ← countedRepetition o.parts }
    | some _ => branches opened fuel (o.push (← primitive))

/-- Parts may stand in each other so deep. -/
def maxNesting : Nat := 250

mutual

/-- The first part of a set that stands too deep, if there are `depth` levels above it. -/
def SetSyntax.tooDeep? (depth : Nat) : SetSyntax → Option Span
  | .brackets _ inner span =>
    if maxNesting ≤ depth then some span else inner.tooDeep? (depth + 1)
  | .union items span =>
    if maxNesting ≤ depth then some span else tooDeepSet? (depth + 1) items
  | .combination _ left right span =>
    if maxNesting ≤ depth then some span
    else left.tooDeep? (depth + 1) <|> right.tooDeep? (depth + 1)
  | _ => none

def tooDeepSet? (depth : Nat) : List SetSyntax → Option Span
  | [] => none
  | first :: rest => first.tooDeep? depth <|> tooDeepSet? depth rest

end

mutual

/-- The first part of a pattern that stands too deep, if there are `depth` levels above it. -/
def Syntax.tooDeep? (depth : Nat) : Syntax → Option Span
  | .brackets _ inner span =>
    if maxNesting ≤ depth then some span else inner.tooDeep? (depth + 1)
  | .repeated body _ _ span | .group _ body span =>
    if maxNesting ≤ depth then some span else body.tooDeep? (depth + 1)
  | .alternation parts span | .concatenation parts span =>
    if maxNesting ≤ depth then some span else tooDeepAny? (depth + 1) parts
  | _ => none

def tooDeepAny? (depth : Nat) : List Syntax → Option Span
  | [] => none
  | first :: rest => first.tooDeep? depth <|> tooDeepAny? depth rest

end

def Syntax.ofText (text : String) : Except Refusal Syntax := do
  let start : Cursor := { rest := text.toList, position := .start, verbose := false, names := [] }
  let (tree, _) ← (branches none (2 * start.rest.length + 1) (.startAt .start)).run start
  match tree.tooDeep? 0 with
  | some span => throw ⟨.nestedTooDeep maxNesting, span, none⟩
  | none => return tree

end Scanout.Pattern

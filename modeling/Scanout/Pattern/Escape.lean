import Scanout.Pattern.Cursor

/-!
# Escapes

What a backslash and the characters behind it stand for, in brackets and outside.
-/

namespace Scanout.Pattern

open Reading

inductive Primitive where
  | literal (l : Literal)
  | dot (span : Span)
  | assertion (kind : Assertion) (span : Span)
  | shorthand (kind : Shorthand) (negated : Bool) (span : Span)
  | property (name : String) (span : Span)

namespace Primitive

def span : Primitive → Span
  | literal l => l.span
  | dot span | assertion _ span | shorthand _ _ span | property _ span => span

def toSyntax : Primitive → Syntax
  | literal l => .literal l
  | dot span => .dot span
  | assertion kind span => .assertion kind span
  | shorthand kind negated span => .shorthand kind negated span
  | property name span => .property name span

end Primitive

def isHexDigit (c : Char) : Bool :=
  c.isDigit || ('a' ≤ c && c ≤ 'f') || ('A' ≤ c && c ≤ 'F')

def hexWorth (c : Char) : Nat :=
  if c.isDigit then c.toNat - '0'.toNat else c.toLower.toNat - 'a'.toNat + 10

def hexChar? (digits : List Char) : Option Char :=
  let code := digits.foldl (fun n c => 16 * n + hexWorth c) 0
  if h : code.isValidChar then some (Char.ofNatAux code h) else none

def hexDigit : Reading Char := do
  match ← char? with
  | some c => if isHexDigit c then return c else refuse .hexDigit (← charSpan)
  | none => refuse .escapeUnfinished (← here)

/-- So many digits. The last is not stepped past. -/
def fixedDigits : (count : Nat) → Reading (List Char)
  | 0 => return []
  | 1 => return [← hexDigit]
  | count + 2 => do
    let c ← hexDigit
    if ← advance then return c :: (← fixedDigits (count + 1))
    else refuse .escapeUnfinished (← here)

def bracedDigits : (fuel : Nat) → Reading (List Char)
  | 0 => return []
  | fuel + 1 => do
    if !(← advance) then return []
    if (← char?) = some '\x7d' then return []
    let c ← hexDigit
    return c :: (← bracedDigits fuel)

/-- A character by its number, behind the letter that announces it: in a number of digits, or
between braces. -/
def numbered (width : Nat) (start : Position) : Reading Literal := do
  if !(← advance) then refuse .escapeUnfinished (← here)
  let first ← position
  if (← char?) = some '\x7b' then
    let inner := (← charSpan).last
    let digits ← bracedDigits (← fuel)
    if ← atEnd then refuse .escapeUnfinished (← since first)
    let number : Span := ⟨inner, ← position⟩
    let _ ← advance
    if digits.isEmpty then refuse .hexEmpty (← since first)
    match hexChar? digits with
    | some char => return ⟨char, ← since start, false⟩
    | none => refuse .hexNoCharacter number
  else
    let digits ← fixedDigits width
    let _ ← advance
    match hexChar? digits with
    | some char => return ⟨char, ← since start, width = 2⟩
    | none => refuse .hexNoCharacter (← since first)

def upToBrace : (fuel : Nat) → Reading (List Char)
  | 0 => return []
  | fuel + 1 => do
    if !(← advance) then return []
    match ← char? with
    | some '\x7d' | none => return []
    | some c => return c :: (← upToBrace fuel)

def property (start : Position) : Reading Primitive := do
  if !(← advance) then refuse .escapeUnfinished (← here)
  match ← char? with
  | some '\x7b' =>
    let name ← upToBrace (← fuel)
    if ← atEnd then refuse .escapeUnfinished (← here)
    let _ ← bump
    return .property (String.ofList name) (← since start)
  | some '\\' => refuse .propertyInvalid (← charSpan)
  | letter =>
    let _ ← advance
    return .property (String.ofList letter.toList) (← since start)

/-- Characters with a meaning of their own. -/
def isMeta (c : Char) : Bool := c ∈ "\\.+*?()|[]\x7b\x7d^$#&-~".toList

def isEscapable (c : Char) : Bool :=
  isMeta c || (c.toNat < 0x80 && !c.isAlphanum && c ∉ ['<', '>', '%'])

def isBoundaryChar (c : Char) : Bool := c.isAlpha || c = '-'

def boundaryName : (fuel : Nat) → Reading (List Char)
  | 0 => return []
  | fuel + 1 => do
    match ← char? with
    | some c =>
      if isBoundaryChar c then
        let _ ← advance
        return c :: (← boundaryName fuel)
      else return []
    | none => return []

/-- A word boundary with a name, from its brace on. Yields nothing if the brace opens a count. -/
def namedBoundary (start : Position) : Reading (Option Assertion) := do
  let before ← get
  if !(← advance) then refuse .boundaryOrCountUnclosed (← since start)
  let first ← position
  if !(← char?).any isBoundaryChar then
    set before
    return none
  let name ← boundaryName (← fuel)
  if (← char?) ≠ some '\x7d' then refuse .boundaryUnclosed (← since before.position)
  let span ← since first
  let _ ← bump
  match String.ofList name with
  | "start" => return some .wordStart
  | "end" => return some .wordEnd
  | "start-half" => return some .wordStartHalf
  | "end-half" => return some .wordEndHalf
  | _ => refuse .boundaryUnknown span

/-- What follows the character behind the backslash, which was stepped past. -/
def simpleEscape (start : Position) (c : Char) : Reading Primitive := do
  let span ← since start
  let stands (char : Char) : Reading Primitive := return .literal ⟨char, span, false⟩
  let holds (kind : Assertion) : Reading Primitive := return .assertion kind span
  if isEscapable c then stands c
  else
    match c with
    | 'a' => stands '\x07'
    | 'f' => stands '\x0C'
    | 't' => stands '\t'
    | 'n' => stands '\n'
    | 'r' => stands '\r'
    | 'v' => stands '\x0B'
    | 'A' => holds .textStart
    | 'z' => holds .textEnd
    | 'B' => holds .notWord
    | '<' => holds .wordStart
    | '>' => holds .wordEnd
    | 'b' =>
      if (← char?) = some '\x7b' then
        match ← namedBoundary start with
        | some kind => return .assertion kind (← since start)
        | none => holds .word
      else holds .word
    | _ => refuse .escapeUnknown span

def escape : Reading Primitive := do
  let start ← position
  let _ ← bump
  match ← char? with
  | none => refuse .escapeUnfinished (← since start)
  | some c =>
    let shorthand (kind : Shorthand) (negated : Bool) : Reading Primitive := do
      let _ ← bump
      return .shorthand kind negated (← since start)
    match c with
    | 'x' => return .literal (← numbered 2 start)
    | 'u' => return .literal (← numbered 4 start)
    | 'U' => return .literal (← numbered 8 start)
    | 'p' | 'P' => property start
    | 'd' => shorthand .digit false
    | 'D' => shorthand .digit true
    | 's' => shorthand .space false
    | 'S' => shorthand .space true
    | 'w' => shorthand .word false
    | 'W' => shorthand .word true
    | c =>
      if c.isDigit then refuse .backreference ⟨start, (← charSpan).last⟩
      let _ ← bump
      simpleEscape start c

end Scanout.Pattern

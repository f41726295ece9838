import Scanout.Pattern.Span
import Scanout.Text.Basic

/-!
# Why a pattern is refused

A refusal is a cause and the part of the pattern it is about. It is shown below the pattern, with
the part marked.
-/

namespace Scanout.Pattern

inductive Cause where
  | classEscape
  | rangeOrder
  | rangeBoundary
  | bracketsUnclosed
  | decimalInvalid
  | hexEmpty
  | hexNoCharacter
  | hexDigit
  | escapeUnfinished
  | escapeUnknown
  | negationDangling
  | flagTwice
  | negationTwice
  | flagExpected
  | flagUnknown
  | nameTwice
  | nameEmpty
  | nameInvalid
  | nameUnclosed
  | groupUnclosed
  | groupUnopened
  | nestedTooDeep (limit : Nat)
  | countOrder
  | countExpected
  | countUnclosed
  | nothingRepeated
  | boundaryUnclosed
  | boundaryUnknown
  | boundaryOrCountUnclosed
  | propertyInvalid
  | backreference
  | lookAround
  | characterNotAllowed
  | notText
  | propertyUnknown
  | propertyValueUnknown
  | shorthandUnavailable
  | caseUnavailable
  deriving DecidableEq, Repr

def Cause.message : Cause → String
  | classEscape => "invalid escape sequence found in character class"
  | rangeOrder => "invalid character class range, the start must be <= the end"
  | rangeBoundary => "invalid range boundary, must be a literal"
  | bracketsUnclosed => "unclosed character class"
  | decimalInvalid => "decimal literal invalid"
  | hexEmpty => "hexadecimal literal empty"
  | hexNoCharacter => "hexadecimal literal is not a Unicode scalar value"
  | hexDigit => "invalid hexadecimal digit"
  | escapeUnfinished => "incomplete escape sequence, reached end of pattern prematurely"
  | escapeUnknown => "unrecognized escape sequence"
  | negationDangling => "dangling flag negation operator"
  | flagTwice => "duplicate flag"
  | negationTwice => "flag negation operator repeated"
  | flagExpected => "expected flag but got end of regex"
  | flagUnknown => "unrecognized flag"
  | nameTwice => "duplicate capture group name"
  | nameEmpty => "empty capture group name"
  | nameInvalid => "invalid capture group character"
  | nameUnclosed => "unclosed capture group name"
  | groupUnclosed => "unclosed group"
  | groupUnopened => "unopened group"
  | nestedTooDeep limit =>
    s!"exceed the maximum number of nested parentheses/brackets ({limit})"
  | countOrder => "invalid repetition count range, the start must be <= the end"
  | countExpected => "repetition quantifier expects a valid decimal"
  | countUnclosed => "unclosed counted repetition"
  | nothingRepeated => "repetition operator missing expression"
  | boundaryUnclosed =>
    "special word boundary assertion is either unclosed or contains an invalid character"
  | boundaryUnknown =>
    "unrecognized special word boundary assertion, valid choices are: " ++
      "start, end, start-half or end-half"
  | boundaryOrCountUnclosed =>
    "found either the beginning of a special word boundary or a bounded repetition on a \\b " ++
      "with an opening brace, but no closing brace"
  | propertyInvalid => "invalid Unicode character class"
  | backreference => "backreferences are not supported"
  | lookAround => "look-around, including look-ahead and look-behind, is not supported"
  | characterNotAllowed => "Unicode not allowed here"
  | notText => "pattern can match invalid UTF-8"
  | propertyUnknown => "Unicode property not found"
  | propertyValueUnknown => "Unicode property value not found"
  | shorthandUnavailable =>
    "Unicode-aware Perl class not found (make sure the unicode-perl feature is enabled)"
  | caseUnavailable =>
    "Unicode-aware case insensitivity matching is not available " ++
      "(make sure the unicode-case feature is enabled)"

structure Refusal where
  cause : Cause
  span : Span
  /-- An earlier part that this one is at odds with. -/
  other : Option Span
  deriving DecidableEq, Repr

namespace Refusal

def spans (r : Refusal) : List Span :=
  match r.other with
  | none => [r.span]
  | some other => if r.span.precedes other then [r.span, other] else [other, r.span]

/-- Marks under a line for spans in order, from a column on. -/
def marks : (column : Nat) → List Span → List Char
  | _, [] => []
  | column, s :: rest =>
    let length := max 1 (s.last.column - s.first.column)
    List.replicate (s.first.column - 1 - column) ' ' ++ List.replicate length '^' ++
      marks (max column (s.first.column - 1) + length) rest

/-- A line of the pattern, and the marks under it. `width` is the width of line numbers, if there
are any. -/
def markedLine (spans : List Span) (width : Nat) (line : String) (number : Nat) : List String :=
  let own := spans.filter fun s => s.isOneLine && s.first.line = number
  let blanks (count : Nat) : String := String.ofList (List.replicate count ' ')
  let digits := toString number
  let label := if width = 0 then blanks 4 else blanks (width - digits.length) ++ digits ++ ": "
  let margin := blanks (if width = 0 then 4 else width + 2)
  (label ++ line) :: if own.isEmpty then [] else [margin ++ String.ofList (marks 0 own)]

def longSpan (s : Span) : String :=
  s!"on line {s.first.line} (column {s.first.column}) through line {s.last.line} " ++
    s!"(column {s.last.column - 1})"

def text (r : Refusal) (pattern : String) : String :=
  let lines := Text.lines pattern
  let count := lines.length + if pattern.endsWith "\n" then 1 else 0
  let width := if count ≤ 1 then 0 else (toString count).length
  let marked := (lines.zipIdx 1).flatMap fun (line, number) =>
    markedLine r.spans width line number
  let divider := String.ofList (List.replicate 79 '~')
  let long := r.spans.filter (!·.isOneLine)
  let body := if pattern.contains '\n' then divider :: marked ++ divider :: long.map longSpan
    else marked
  "\n".intercalate ("regex parse error:" :: body ++ [s!"error: {r.cause.message}"])

end Refusal

end Scanout.Pattern

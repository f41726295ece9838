import Scanout.Pattern.Span

/-!
# Patterns as they are written

A pattern is a tree of what stands in it, each with the part of the pattern that it is. What it
means depends on flags, which are part of it.
-/

namespace Scanout.Pattern

structure Literal where
  char : Char
  span : Span
  /-- It is written with two hexadecimal digits, as a byte is. -/
  isByte : Bool
  deriving DecidableEq, Repr

inductive Flag where
  | ignoreCase
  | multiLine
  | dotAll
  | swapGreed
  | unicode
  | crlf
  | verbose
  deriving DecidableEq, Repr

structure FlagChange where
  flag : Flag
  enable : Bool
  deriving DecidableEq, Repr

/-- What holds at a place and takes no character. -/
inductive Assertion where
  | lineStart
  | lineEnd
  | textStart
  | textEnd
  | word
  | notWord
  | wordStart
  | wordEnd
  | wordStartHalf
  | wordEndHalf
  deriving DecidableEq, Repr

inductive Shorthand where
  | digit
  | space
  | word
  deriving DecidableEq, Repr

inductive AsciiClass where
  | alnum
  | alpha
  | ascii
  | blank
  | cntrl
  | digit
  | graph
  | lower
  | print
  | punct
  | space
  | upper
  | word
  | xdigit
  deriving DecidableEq, Repr

def AsciiClass.ofName? : String → Option AsciiClass
  | "alnum" => some alnum
  | "alpha" => some alpha
  | "ascii" => some ascii
  | "blank" => some blank
  | "cntrl" => some cntrl
  | "digit" => some digit
  | "graph" => some graph
  | "lower" => some lower
  | "print" => some print
  | "punct" => some punct
  | "space" => some space
  | "upper" => some upper
  | "word" => some word
  | "xdigit" => some xdigit
  | _ => none

inductive SetOperation where
  | intersection
  | difference
  | symmetricDifference
  deriving DecidableEq, Repr

inductive SetSyntax where
  | nothing (span : Span)
  | literal (l : Literal)
  | range (first last : Literal) (span : Span)
  | ascii (kind : AsciiClass) (negated : Bool) (span : Span)
  | shorthand (kind : Shorthand) (negated : Bool) (span : Span)
  /-- A class by a property of characters. -/
  | property (name : String) (span : Span)
  | brackets (negated : Bool) (inner : SetSyntax) (span : Span)
  | union (items : List SetSyntax) (span : Span)
  | combination (operation : SetOperation) (left right : SetSyntax) (span : Span)

def SetSyntax.span : SetSyntax → Span
  | nothing span | range _ _ span | ascii _ _ span | shorthand _ _ span | property _ span
  | brackets _ _ span | union _ span | combination _ _ _ span => span
  | literal l => l.span

inductive Syntax where
  | empty (span : Span)
  | flags (changes : List FlagChange) (span : Span)
  | literal (l : Literal)
  | dot (span : Span)
  | assertion (kind : Assertion) (span : Span)
  | shorthand (kind : Shorthand) (negated : Bool) (span : Span)
  | property (name : String) (span : Span)
  | brackets (negated : Bool) (inner : SetSyntax) (span : Span)
  | repeated (body : Syntax) (least : Nat) (most : Option Nat) (span : Span)
  /-- A group, with the flags that hold in it, or none if it is numbered. -/
  | group (changes : Option (List FlagChange)) (body : Syntax) (span : Span)
  | alternation (branches : List Syntax) (span : Span)
  | concatenation (parts : List Syntax) (span : Span)

namespace Syntax

def span : Syntax → Span
  | empty span | flags _ span | dot span | assertion _ span | shorthand _ _ span
  | property _ span | brackets _ _ span | repeated _ _ _ span | group _ _ span
  | alternation _ span | concatenation _ span => span
  | literal l => l.span

def isRepeatable : Syntax → Bool
  | empty _ | flags .. => false
  | _ => true

end Syntax

/-- What a flag is changed to by the last of some changes that names it first. -/
def flagState? (flag : Flag) (changes : List FlagChange) : Option Bool :=
  (changes.find? (·.flag = flag)).map FlagChange.enable

end Scanout.Pattern

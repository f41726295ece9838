import Scanout.Pattern.CharSet
import Scanout.Pattern.Refusal

/-!
# What a pattern means

Flags are worked into a pattern, and its brackets become sets. Flags hold from where they stand up
to the end of their group. Characters are those of text, or, where the flag for that is unset, bytes
that have to make text again. There are no tables of properties or of letters beyond the first 128
characters, so what would need one is refused.
-/

namespace Scanout.Pattern

inductive Look where
  | textStart
  | textEnd
  /-- Lines end at line feeds, or, if `crlf`, also at carriage returns and at both together. -/
  | lineStart (crlf : Bool)
  | lineEnd (crlf : Bool)
  /-- Words have characters of the first 128, or, if `unicode`, of all. -/
  | word (unicode : Bool)
  | notWord (unicode : Bool)
  | wordStart (unicode : Bool)
  | wordEnd (unicode : Bool)
  | wordStartHalf (unicode : Bool)
  | wordEndHalf (unicode : Bool)
  deriving DecidableEq, Repr

inductive Expression where
  | empty
  | oneOf (set : CharSet)
  | look (l : Look)
  | repeated (body : Expression) (least : Nat) (most : Option Nat)
  /-- A group that is numbered. -/
  | captured (body : Expression)
  | sequence (parts : List Expression)
  | choice (branches : List Expression)

structure Flags where
  ignoreCase : Bool := false
  multiLine : Bool := false
  dotAll : Bool := false
  unicode : Bool := true
  crlf : Bool := false
  deriving DecidableEq, Repr

namespace Flags

def apply (f : Flags) (change : FlagChange) : Flags :=
  match change.flag with
  | .ignoreCase => { f with ignoreCase := change.enable }
  | .multiLine => { f with multiLine := change.enable }
  | .dotAll => { f with dotAll := change.enable }
  | .unicode => { f with unicode := change.enable }
  | .crlf => { f with crlf := change.enable }
  | .swapGreed | .verbose => f

def applyAll (f : Flags) (changes : List FlagChange) : Flags := changes.foldl apply f

def all (f : Flags) : CharSet := if f.unicode then .everything else .everyByte

end Flags

def refusal {α : Type} (cause : Cause) (span : Span) : Except Refusal α :=
  .error ⟨cause, span, none⟩

def foldCase (f : Flags) (span : Span) (s : CharSet) : Except Refusal CharSet :=
  if !f.ignoreCase then .ok s
  else if !f.unicode then .ok s.withCases
  else if s.isEmpty then .ok s
  else refusal .caseUnavailable span

/-- Adds other cases to a set and then takes what is not in it, if it is negated. -/
def foldAndNegate (f : Flags) (negated : Bool) (span : Span) (s : CharSet) :
    Except Refusal CharSet := do
  let s ← foldCase f span s
  let s := if negated then s.complement f.all else s
  if f.unicode || s.isAscii then return s else refusal .notText span

def literalChar (f : Flags) (l : Literal) : Except Refusal Char :=
  if !f.unicode && l.isByte && 0x80 ≤ l.char.toNat then refusal .notText l.span else .ok l.char

def setChar (f : Flags) (l : Literal) : Except Refusal Char := do
  let c ← literalChar f l
  if !f.unicode && 0x80 ≤ c.toNat then refusal .characterNotAllowed l.span else return c

def shorthandSet (f : Flags) (kind : Shorthand) (negated : Bool) (span : Span) :
    Except Refusal CharSet := do
  if f.unicode then refusal .shorthandUnavailable span
  let s := CharSet.ofShorthand kind
  let s := if negated then s.complement f.all else s
  if s.isAscii then return s else refusal .notText span

/-- A property's name without what does not count in it. -/
def plainName (name : String) : String :=
  let lower := name.toLower
  let lower := if lower.startsWith "is" then (lower.drop 2).toString else lower
  String.ofList (lower.toList.filter fun c => c ∉ [' ', '_', '-'] && c.toNat < 0x80)

/-- No property is known. Some names can only be those of values of a property. -/
def propertySet {α : Type} (f : Flags) (name : String) (span : Span) : Except Refusal α :=
  if !f.unicode then refusal .characterNotAllowed span
  else if plainName name ∈ ["cf", "sc", "lc"] then refusal .propertyValueUnknown span
  else refusal .propertyUnknown span

mutual

def SetSyntax.chars (f : Flags) : SetSyntax → Except Refusal CharSet
  | .nothing _ => .ok []
  | .literal l => return .single (← setChar f l)
  | .range first last _ => return .ofChars [(← setChar f first, ← setChar f last)]
  | .ascii kind negated span => foldAndNegate f negated span (.ofAscii kind)
  | .shorthand kind negated span => shorthandSet f kind negated span
  | .property name span => propertySet f name span
  | .brackets negated inner span => do foldAndNegate f negated span (← inner.chars f)
  | .union items _ => unionChars f items
  | .combination operation left right _ => do
    let leftSet ← left.chars f
    let rightSet ← right.chars f
    let rightSet ← foldCase f right.span rightSet
    let leftSet ← foldCase f left.span leftSet
    return .apply operation leftSet rightSet

def unionChars (f : Flags) : List SetSyntax → Except Refusal CharSet
  | [] => .ok []
  | first :: rest => return .union (← first.chars f) (← unionChars f rest)

end

def literalMeaning (f : Flags) (l : Literal) : Except Refusal Expression := do
  let c ← literalChar f l
  if f.ignoreCase then
    if f.unicode then refusal .caseUnavailable l.span
    else return .oneOf (CharSet.single c).withCases
  else return .oneOf (.single c)

def dotMeaning (f : Flags) (span : Span) : Except Refusal Expression :=
  if !f.unicode then refusal .notText span
  else if f.dotAll then .ok (.oneOf .everything)
  else
    let ends := if f.crlf then [('\n', '\n'), ('\r', '\r')] else [('\n', '\n')]
    .ok (.oneOf ((CharSet.ofChars ends).complement .everything))

def Assertion.look (f : Flags) : Assertion → Look
  | lineStart => if f.multiLine then .lineStart f.crlf else .textStart
  | lineEnd => if f.multiLine then .lineEnd f.crlf else .textEnd
  | textStart => .textStart
  | textEnd => .textEnd
  | word => .word f.unicode
  | notWord => .notWord f.unicode
  | wordStart => .wordStart f.unicode
  | wordEnd => .wordEnd f.unicode
  | wordStartHalf => .wordStartHalf f.unicode
  | wordEndHalf => .wordEndHalf f.unicode

mutual

/-- All that the expression matches is empty, if it matches anything. -/
def Expression.isVoid : Expression → Bool
  | .empty | .look _ => true
  | .oneOf _ => false
  | .repeated body _ _ | .captured body => body.isVoid
  | .sequence parts => areVoid parts
  | .choice branches => areVoid branches

def areVoid : List Expression → Bool
  | [] => true
  | first :: rest => first.isVoid && areVoid rest

end

/-- A repetition. What is void needs no more than one round. -/
def Expression.repeating (body : Expression) (least : Nat) (most : Option Nat) : Expression :=
  let (least, most) := if body.isVoid then (min least 1, some (min (most.getD 1) 1))
    else (least, most)
  match least, most with
  | 0, some 0 => .empty
  | 1, some 1 => body
  | _, _ => .repeated body least most

mutual

/-- The meaning of a pattern, and the flags that hold behind it. -/
def Syntax.meaning : Syntax → Flags → Except Refusal (Expression × Flags)
  | .empty _, f => .ok (.empty, f)
  | .flags changes _, f => .ok (.empty, f.applyAll changes)
  | .literal l, f => return (← literalMeaning f l, f)
  | .dot span, f => return (← dotMeaning f span, f)
  | .assertion kind _, f => .ok (.look (kind.look f), f)
  | .shorthand kind negated span, f => return (.oneOf (← shorthandSet f kind negated span), f)
  | .property name span, f => propertySet f name span
  | .brackets negated inner span, f =>
    return (.oneOf (← foldAndNegate f negated span (← inner.chars f)), f)
  | .repeated body least most _, f => do
    let (e, f) ← body.meaning f
    return (e.repeating least most, f)
  | .group changes body _, f => do
    let (e, _) ← body.meaning (f.applyAll (changes.getD []))
    return (if changes.isNone then .captured e else e, f)
  | .alternation branches _, f => do
    let (l, f) ← meanings branches f
    return (.choice l, f)
  | .concatenation parts _, f => do
    let (l, f) ← meanings parts f
    return (.sequence l, f)

def meanings : List Syntax → Flags → Except Refusal (List Expression × Flags)
  | [], f => .ok ([], f)
  | first :: rest, f => do
    let (e, f) ← first.meaning f
    let (l, f) ← meanings rest f
    return (e :: l, f)

end

end Scanout.Pattern

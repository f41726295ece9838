import Scanout.Pattern.Meaning

/-!
# Searching for a pattern

A text has a place in front of every character and one behind the last. An expression leads from
some places to others; it occurs in a text if it leads from any place to any.
-/

namespace Scanout.Pattern

/-- Places in a text, by how many characters stand in front of them, each once. -/
abbrev Places : Type := List Nat

def Places.union (a b : Places) : Places := a ++ b.filter (!a.contains ·)

def isWordChar (c : Char) : Bool := (CharSet.ofAscii .word).contains c

namespace Look

/-- It holds between two characters, of which there may be none. -/
def holds (l : Look) (before behind : Option Char) : Bool :=
  let wordBefore := before.any isWordChar
  let wordBehind := behind.any isWordChar
  match l with
  | textStart => before.isNone
  | textEnd => behind.isNone
  | lineStart false => before.all (· = '\n')
  | lineEnd false => behind.all (· = '\n')
  | lineStart true => before.all (· = '\n') || (before = some '\r' && behind ≠ some '\n')
  | lineEnd true => behind.all (· = '\r') || (behind = some '\n' && before ≠ some '\r')
  | word _ => wordBefore != wordBehind
  | notWord _ => wordBefore == wordBehind
  | wordStart _ => !wordBefore && wordBehind
  | wordEnd _ => wordBefore && !wordBehind
  | wordStartHalf _ => !wordBefore
  | wordEndHalf _ => !wordBehind

end Look

def rounds (step : Places → Places) : (count : Nat) → Places → Places
  | 0, places => places
  | count + 1, places => rounds step count (step places)

/-- Places that can be reached in at most so many steps, from some that were reached and some that
were reached last. -/
def reach (step : Places → Places) : (count : Nat) → (reached last : Places) → Places
  | 0, reached, _ => reached
  | count + 1, reached, last =>
    let new := (step last).filter (!reached.contains ·)
    if new.isEmpty then reached else reach step count (reached ++ new) new

mutual

/-- The places that an expression leads to. Going on for more rounds than there are places leads to
no other places. -/
def Expression.lead (text : Array Char) : Expression → Places → Places
  | .empty, places => places
  | .oneOf s, places =>
    places.filterMap fun i => if text[i]?.any s.contains then some (i + 1) else none
  | .look l, places =>
    places.filter fun i => l.holds (if i = 0 then none else text[i - 1]?) text[i]?
  | .repeated body least most, places =>
    let bound := text.size + 1
    let first := rounds (body.lead text) (min least bound) places
    let more := match most with
      | none => bound
      | some most => min (most - least) bound
    reach (body.lead text) more first first
  | .captured body, places => body.lead text places
  | .sequence parts, places => leadThrough text parts places
  | .choice branches, places => leadAny text branches places

def leadThrough (text : Array Char) : List Expression → Places → Places
  | [], places => places
  | first :: rest, places => leadThrough text rest (first.lead text places)

def leadAny (text : Array Char) : List Expression → Places → Places
  | [], _ => []
  | first :: rest, places => (first.lead text places).union (leadAny text rest places)

end

def Expression.occursIn (e : Expression) (text : String) : Bool :=
  let chars := text.toList.toArray
  !(e.lead chars (List.range (chars.size + 1))).isEmpty

end Scanout.Pattern

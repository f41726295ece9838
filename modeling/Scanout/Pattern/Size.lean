import Scanout.Pattern.Meaning

/-!
# How large a pattern is

A pattern is laid out as a graph of states before it is searched for, with a copy of a part for each
time that it has to be repeated. The graph is not let grow beyond a limit. Its size in bytes is told
here without making it. Graphs for reading forwards and backwards differ, and both have to fit.
-/

namespace Scanout.Pattern

inductive Direction where
  | forwards
  | backwards
  deriving DecidableEq, Repr

def stateSize : Nat := 32

def transitionSize : Nat := 8

/-- How many bytes a character takes, by the number of the first that takes more. -/
def encodingBounds : List (Nat × Nat) := [(0x80, 1), (0x800, 2), (0x10000, 3), (0x110000, 4)]

def encodingLength (n : Nat) : Nat := ((encodingBounds.find? (n < ·.1)).map (·.2)).getD 4

/-- Lengths of the sequences of byte ranges that a range of characters of one length falls into: as
many as such a range can need when it covers all characters of the length, and one when it covers
characters that differ in their last byte only. -/
def sequenceLengths (r : NumberRange) : List Nat :=
  let length := encodingLength r.first
  let count := if r.first / 64 = r.last / 64 then 1
    else match length with
      | 1 => 1
      | 2 => if r.first % 64 = 0 && r.last % 64 = 63 then 1 else 2
      | 3 => 2
      | _ => 3
  List.replicate count length

def byLength (r : NumberRange) : List NumberRange :=
  (encodingBounds.zip (0 :: encodingBounds.map (·.1))).filterMap fun ((bound, _), first) =>
    CharSet.overlap? r ⟨first, bound - 1⟩

/-- Bytes for a set. One character is a chain of states, and characters of one byte share a state.
Everything else is laid out by the encoding, in which endings are shared when reading forwards. -/
def setSize (d : Direction) (s : CharSet) : Nat :=
  match s with
  | [⟨first, last⟩] =>
    if first = last then stateSize * encodingLength first
    else rangesSize
  | _ => rangesSize
where
  rangesSize : Nat :=
    if s.isAscii then 2 * stateSize + transitionSize * s.length
    else
      let lengths := (s.flatMap byLength).flatMap sequenceLengths
      let longest := lengths.foldl max 0
      match d with
      | .forwards => (2 + longest + lengths.length / 2) * stateSize +
          (longest + 2 * lengths.length) * transitionSize
      | .backwards => (2 + lengths.foldl (· + ·) 0) * stateSize + lengths.length * (transitionSize / 2)

mutual

/-- The expression matches something empty, for all that can be told from its lengths. -/
def Expression.canBeEmpty : Expression → Bool
  | .empty | .look _ => true
  | .oneOf s => s.isEmpty
  | .repeated body least _ => least = 0 || body.canBeEmpty
  | .captured body => body.canBeEmpty
  | .sequence parts => allCanBeEmpty parts
  | .choice branches => anyCanBeEmpty branches

def allCanBeEmpty : List Expression → Bool
  | [] => true
  | first :: rest => first.canBeEmpty && allCanBeEmpty rest

def anyCanBeEmpty : List Expression → Bool
  | [] => false
  | first :: rest => first.canBeEmpty || anyCanBeEmpty rest

end

def repeatedSize (unit least : Nat) (most : Option Nat) (canBeEmpty : Bool) : Nat :=
  match least, most with
  | 0, some 1 => unit + 2 * stateSize
  | 0, none => unit + (if canBeEmpty then 3 else 1) * stateSize
  | least, none => least * unit + stateSize
  | least, some most =>
    if least = most then least * unit
    else least * unit + (most - least) * (unit + stateSize) + stateSize

mutual

def Expression.size (d : Direction) : Expression → Nat
  | .empty | .look _ => stateSize
  | .oneOf s => setSize d s
  | .repeated body least most => repeatedSize (body.size d) least most body.canBeEmpty
  | .captured body => body.size d + if d = .forwards then 2 * stateSize else 0
  | .sequence parts => totalSize d parts
  | .choice branches => totalSize d branches + 2 * stateSize

def totalSize (d : Direction) : List Expression → Nat
  | [] => 0
  | first :: rest => first.size d + totalSize d rest

end

def frameSize : Nat := 8 * stateSize

def sizeLimit : Nat := 10485760

def Expression.fits (e : Expression) : Bool :=
  [Direction.forwards, .backwards].all fun d => e.size d + frameSize ≤ sizeLimit

end Scanout.Pattern

import Scanout.Pattern.Syntax

/-!
# Sets of characters

A set is a list of ranges of character numbers, in order and with gaps between them.
-/

namespace Scanout.Pattern

structure NumberRange where
  first : Nat
  last : Nat
  deriving DecidableEq, Repr

abbrev CharSet : Type := List NumberRange

namespace CharSet

def contains (s : CharSet) (c : Char) : Bool :=
  s.any fun r => r.first ≤ c.toNat && c.toNat ≤ r.last

def single (c : Char) : CharSet := [⟨c.toNat, c.toNat⟩]

def everything : CharSet := [⟨0, 0xD7FF⟩, ⟨0xE000, 0x10FFFF⟩]

def everyByte : CharSet := [⟨0, 0xFF⟩]

/-- Puts a range in front of a set that begins no earlier, and joins what touches. -/
def join (r : NumberRange) : CharSet → CharSet
  | [] => [r]
  | next :: rest =>
    if next.first ≤ r.last + 1 then join ⟨r.first, max r.last next.last⟩ rest else r :: next :: rest

def ofRanges (l : List NumberRange) : CharSet :=
  (l.mergeSort fun a b => a.first ≤ b.first).foldr join []

def union (a b : CharSet) : CharSet := ofRanges (a ++ b)

def overlap? (a b : NumberRange) : Option NumberRange :=
  let first := max a.first b.first
  let last := min a.last b.last
  if first ≤ last then some ⟨first, last⟩ else none

def inter (a b : CharSet) : CharSet :=
  ofRanges (a.flatMap fun r => b.filterMap (overlap? r))

def gaps (first bound : Nat) : CharSet → CharSet
  | [] => if first ≤ bound then [⟨first, bound⟩] else []
  | r :: rest =>
    let behind := gaps (max first (r.last + 1)) bound rest
    if first < r.first then ⟨first, r.first - 1⟩ :: behind else behind

def complement (s all : CharSet) : CharSet := inter all (gaps 0 0x10FFFF s)

def diff (a b : CharSet) : CharSet := inter a (gaps 0 0x10FFFF b)

def symmDiff (a b : CharSet) : CharSet := union (diff a b) (diff b a)

def apply : SetOperation → CharSet → CharSet → CharSet
  | .intersection => inter
  | .difference => diff
  | .symmetricDifference => symmDiff

def isAscii (s : CharSet) : Bool := s.all (·.last < 0x80)

def ofChars (l : List (Char × Char)) : CharSet :=
  ofRanges (l.map fun (first, last) => ⟨first.toNat, last.toNat⟩)

def withCases (s : CharSet) : CharSet :=
  let shift (r : NumberRange) (away : Nat → Nat) : NumberRange := ⟨away r.first, away r.last⟩
  let upper := (inter s (ofChars [('A', 'Z')])).map (shift · (· + 32))
  let lower := (inter s (ofChars [('a', 'z')])).map (shift · (· - 32))
  ofRanges (s ++ upper ++ lower)

def ofAscii : AsciiClass → CharSet
  | .alnum => ofChars [('0', '9'), ('A', 'Z'), ('a', 'z')]
  | .alpha => ofChars [('A', 'Z'), ('a', 'z')]
  | .ascii => ofChars [('\x00', '\x7F')]
  | .blank => ofChars [('\t', '\t'), (' ', ' ')]
  | .cntrl => ofChars [('\x00', '\x1F'), ('\x7F', '\x7F')]
  | .digit => ofChars [('0', '9')]
  | .graph => ofChars [('!', '~')]
  | .lower => ofChars [('a', 'z')]
  | .print => ofChars [(' ', '~')]
  | .punct => ofChars [('!', '/'), (':', '@'), ('[', '\x60'), ('\x7b', '~')]
  | .space => ofChars [('\t', '\r'), (' ', ' ')]
  | .upper => ofChars [('A', 'Z')]
  | .word => ofChars [('0', '9'), ('A', 'Z'), ('_', '_'), ('a', 'z')]
  | .xdigit => ofChars [('0', '9'), ('A', 'F'), ('a', 'f')]

def ofShorthand : Shorthand → CharSet
  | .digit => ofAscii .digit
  | .space => ofAscii .space
  | .word => ofAscii .word

end CharSet

end Scanout.Pattern

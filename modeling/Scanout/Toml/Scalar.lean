import Scanout.Toml.Value

/-!
# Values without quotes

Booleans, numbers, dates and times are one run of characters each, and the run decides which it is.
-/

namespace Scanout.Toml

/-- Digits with single underscores between them, without the underscores. `digit` tells whether a
digit has to come next. -/
def joinDigits (isDigit : Char → Bool) : (digit : Bool) → List Char → Option (List Char)
  | true, [] => none
  | false, [] => some []
  | true, c :: rest => if isDigit c then (joinDigits isDigit false rest).map (c :: ·) else none
  | false, c :: rest =>
    if c = '_' then joinDigits isDigit true rest
    else if isDigit c then (joinDigits isDigit false rest).map (c :: ·)
    else none

def spell (base : Nat) (digits : List Char) : Nat :=
  let worth (c : Char) : Nat :=
    if c.isDigit then c.toNat - '0'.toNat else c.toLower.toNat - 'a'.toNat + 10
  digits.foldl (fun n c => base * n + worth c) 0

def isHexDigit (c : Char) : Bool := c.isDigit || ('a' ≤ c.toLower && c.toLower ≤ 'f')
def isOctalDigit (c : Char) : Bool := '0' ≤ c && c ≤ '7'
def isBinaryDigit (c : Char) : Bool := c = '0' || c = '1'

/-- What stands behind the mark of a base. Nothing at all is a misspelt number. -/
def based (base : Nat) (isDigit : Char → Bool) (s : List Char) : Option Value :=
  if s.isEmpty then some .misspelt
  else (joinDigits isDigit true s).map fun digits => .integer (spell base digits)

def decimalDigits (s : List Char) : Option (List Char) :=
  match joinDigits Char.isDigit true s with
  | some ('0' :: _ :: _) => none
  | digits => digits

/-- Splits off a sign: whether it is a minus, and the rest. -/
def splitSign : List Char → Bool × List Char
  | '-' :: rest => (true, rest)
  | '+' :: rest => (false, rest)
  | s => (false, s)

def integer (s : List Char) : Option Value := do
  let (negative, s) := splitSign s
  let value : Int := spell 10 (← decimalDigits s)
  some (.integer (if negative then -value else value))

/-- Both ends of a part between underscores could be digits of some number. A single character has
only a first end, and the last part has no second. -/
def isLoosePart (part : List Char) (isLast : Bool) : Bool :=
  part.head?.any isHexDigit && (isLast || part.getLast?.any isHexDigit)

/-- Parts behind the first, with single underscores in front of each, are digits for all that can be
told at their ends. -/
def areLooseParts : List (List Char) → Bool
  | [] => true
  | [last] => isLoosePart last true
  | part :: rest => isLoosePart part false && areLooseParts rest

/-- A decimal number whose first digits have an underscore behind them may go on with other
characters, as long as they do not make a float of it. Then it is misspelt. -/
def misspeltDecimal (s : List Char) : Option Value :=
  let (digits, rest) := (splitSign s).2.span Char.isDigit
  match rest with
  | '_' :: parts =>
    let leadingZero := digits.head? = some '0'
    let floats := parts.any (· ∈ ['.', 'e', 'E'])
    if digits.isEmpty || leadingZero || floats || !areLooseParts (parts.splitOn '_') then none
    else some .misspelt
  | _ => none

def splitAtFirst (p : Char → Bool) (s : List Char) : List Char × Option (List Char) :=
  match s.dropWhile (!p ·) with
  | [] => (s, none)
  | _ :: behind => (s.takeWhile (!p ·), some behind)

def exponent : Option (List Char) → Option Int
  | none => some 0
  | some s => do
    let (negative, s) := splitSign s
    let value : Int := spell 10 (← joinDigits Char.isDigit true s)
    some (if negative then -value else value)

def fraction : Option (List Char) → Option (List Char)
  | none => some []
  | some s => joinDigits Char.isDigit true s

def float (s : List Char) : Option Value :=
  match (splitSign s).2 with
  | ['i', 'n', 'f'] => some (.float .infinity)
  | ['n', 'a', 'n'] => some (.float .nan)
  | s => do
    let (mantissa, power) := splitAtFirst (fun c => c = 'e' || c = 'E') s
    let (whole, part) := splitAtFirst (· = '.') mantissa
    let whole ← decimalDigits whole
    let part ← fraction part
    let power ← exponent power
    some (.float (.decimal (spell 10 (whole ++ part)) (power - part.length)))

def twoDigits : List Char → Option (Nat × List Char)
  | a :: b :: rest => if a.isDigit && b.isDigit then some (spell 10 [a, b], rest) else none
  | _ => none

def expect (c : Char) : List Char → Option (List Char)
  | first :: rest => if first = c then some rest else none
  | [] => none

def daysInMonth (year month : Nat) : Nat :=
  let leap := year % 4 = 0 ∧ (year % 100 ≠ 0 ∨ year % 400 = 0)
  if month = 2 then if leap then 29 else 28
  else if month ∈ [4, 6, 9, 11] then 30
  else 31

def skipDate (s : List Char) : Option (List Char) := do
  let (century, s) ← twoDigits s
  let (year, s) ← twoDigits s
  let (month, s) ← twoDigits (← expect '-' s)
  let (day, s) ← twoDigits (← expect '-' s)
  let year := 100 * century + year
  if 1 ≤ month ∧ month ≤ 12 ∧ 1 ≤ day ∧ day ≤ daysInMonth year month then some s else none

def skipSeconds (s : List Char) : Option (List Char) :=
  match s with
  | ':' :: s => do
    let (second, s) ← twoDigits s
    if 60 < second then none
    else
      match s with
      | '.' :: s => if s.head?.any Char.isDigit then some (s.dropWhile Char.isDigit) else none
      | s => some s
  | s => some s

def skipTime (s : List Char) : Option (List Char) := do
  let (hour, s) ← twoDigits s
  let (minute, s) ← twoDigits (← expect ':' s)
  if hour ≤ 23 ∧ minute ≤ 59 then skipSeconds s else none

def skipOffset (s : List Char) : Option (List Char) :=
  match s with
  | 'Z' :: s | 'z' :: s => some s
  | '+' :: s | '-' :: s => do
    let (hour, s) ← twoDigits s
    let (minute, s) ← twoDigits (← expect ':' s)
    if hour ≤ 23 ∧ minute ≤ 59 then some s else none
  | s => some s

def isDateTime (s : List Char) : Bool :=
  match skipDate s with
  | none => skipTime s = some []
  | some [] => true
  | some (c :: s) => (c ∈ ['T', 't', ' ']) && (skipTime s).bind skipOffset = some []

def dateTime (s : List Char) : Option Value :=
  if isDateTime s then some (.dateTime (String.ofList s)) else none

def unquoted (s : List Char) : Option Value :=
  match s with
  | ['t', 'r', 'u', 'e'] => some (.boolean true)
  | ['f', 'a', 'l', 's', 'e'] => some (.boolean false)
  | '0' :: 'x' :: digits => based 16 isHexDigit digits
  | '0' :: 'o' :: digits => based 8 isOctalDigit digits
  | '0' :: 'b' :: digits => based 2 isBinaryDigit digits
  | s => integer s <|> float s <|> dateTime s <|> misspeltDecimal s

def endsRun (c : Char) : Bool :=
  c ∈ [',', '[', ']', '\x7b', '\x7d', '=', '#', ' ', '\t', '\r', '\n']

/-- Splits off a run. One blank between a date and a time belongs to it. -/
def takeRun (s : List Char) : List Char × List Char :=
  let (run, rest) := s.span (!endsRun ·)
  match rest with
  | ' ' :: c :: tail =>
    if c.isDigit && skipDate run = some [] then
      let (time, rest) := (c :: tail).span (!endsRun ·)
      (run ++ ' ' :: time, rest)
    else (run, rest)
  | _ => (run, rest)

end Scanout.Toml

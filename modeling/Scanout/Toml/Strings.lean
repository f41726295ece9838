import Scanout.Toml.Layout

/-!
# Strings

Every reader starts behind the opening quotes and yields the characters with what follows the
closing quotes. Line ends inside a string are kept as they are written.
-/

namespace Scanout.Toml

def hexValue? (c : Char) : Option Nat :=
  if c.isDigit then some (c.toNat - '0'.toNat)
  else if 'a' ≤ c && c ≤ 'f' then some (c.toNat - 'a'.toNat + 10)
  else if 'A' ≤ c && c ≤ 'F' then some (c.toNat - 'A'.toNat + 10)
  else none

def hexNumber (digits : List Char) : Option Nat :=
  digits.foldlM (fun n c => (hexValue? c).map (16 * n + ·)) 0

def numberedChar (width : Nat) (s : List Char) : Option (Char × List Char) := do
  let digits := s.take width
  let code ← hexNumber digits
  if h : digits.length = width ∧ code.isValidChar then
    some (Char.ofNatAux code h.2, s.drop width)
  else none

def escape : List Char → Option (Char × List Char)
  | 'b' :: rest => some ('\x08', rest)
  | 't' :: rest => some ('\t', rest)
  | 'n' :: rest => some ('\n', rest)
  | 'f' :: rest => some ('\x0C', rest)
  | 'r' :: rest => some ('\r', rest)
  | 'e' :: rest => some ('\x1B', rest)
  | '"' :: rest => some ('"', rest)
  | '\\' :: rest => some ('\\', rest)
  | 'x' :: rest => numberedChar 2 rest
  | 'u' :: rest => numberedChar 4 rest
  | 'U' :: rest => numberedChar 8 rest
  | _ => none

def after (c : Char) (read : Option (List Char × List Char)) : Option (List Char × List Char) :=
  read.map fun (text, rest) => (c :: text, rest)

def basicText : (fuel : Nat) → List Char → Option (List Char × List Char)
  | 0, _ | _, [] => none
  | _, '"' :: rest => some ([], rest)
  | fuel + 1, '\\' :: rest => do
    let (c, rest) ← escape rest
    after c (basicText fuel rest)
  | fuel + 1, c :: rest => if isControl c then none else after c (basicText fuel rest)

def literalText : List Char → Option (List Char × List Char)
  | [] => none
  | '\'' :: rest => some ([], rest)
  | c :: rest => if isControl c then none else after c (literalText rest)

/-- Behind three closing quotes up to two more belong to the text. -/
def closingQuotes (quote : Char) (s : List Char) : List Char × List Char :=
  let extra := (s.take 2).takeWhile (· = quote)
  (extra, s.drop extra.length)

def skipSpace : List Char → List Char
  | [] => []
  | '\n' :: rest => skipSpace rest
  | '\r' :: '\n' :: rest => skipSpace rest
  | c :: rest => if isBlank c then skipSpace rest else c :: rest

/-- A backslash at the end of a line takes with it the line end and all blanks and line ends that
follow. Yields nothing if something else stands on the line. -/
def joinLines? (s : List Char) : Option (List Char) :=
  (newline? (skipBlanks s)).map skipSpace

def basicLines : (fuel : Nat) → List Char → Option (List Char × List Char)
  | 0, _ | _, [] => none
  | _, '"' :: '"' :: '"' :: rest => some (closingQuotes '"' rest)
  | fuel + 1, '\\' :: rest =>
    match joinLines? rest with
    | some next => basicLines fuel next
    | none => do
      let (c, rest) ← escape rest
      after c (basicLines fuel rest)
  | fuel + 1, '\r' :: '\n' :: rest => after '\r' (after '\n' (basicLines fuel rest))
  | fuel + 1, c :: rest =>
    if c ≠ '\n' && isControl c then none else after c (basicLines fuel rest)

def literalLines : List Char → Option (List Char × List Char)
  | [] => none
  | '\'' :: '\'' :: '\'' :: rest => some (closingQuotes '\'' rest)
  | '\r' :: '\n' :: rest => after '\r' (after '\n' (literalLines rest))
  | c :: rest => if c ≠ '\n' && isControl c then none else after c (literalLines rest)

/-- A line end right behind the opening quotes does not belong to the text. -/
def dropNewline (s : List Char) : List Char := (newline? s).getD s

def quoted : List Char → Option (List Char × List Char)
  | '"' :: rest => basicText (rest.length + 1) rest
  | '\'' :: rest => literalText rest
  | _ => none

def stringText : List Char → Option (List Char × List Char)
  | '"' :: '"' :: '"' :: rest => basicLines (rest.length + 1) (dropNewline rest)
  | '\'' :: '\'' :: '\'' :: rest => literalLines (dropNewline rest)
  | s => quoted s

end Scanout.Toml

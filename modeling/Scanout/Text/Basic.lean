/-!
# Text

Searching and trimming, the lines of a text, and numbers in hexadecimal: lower-case digits after `0x`,
filled up with zeros to a fixed number of digits.
-/

namespace Scanout.Text

def occursIn (word : List Char) : List Char → Bool
  | [] => word.isEmpty
  | c :: rest => word.isPrefixOf (c :: rest) || occursIn word rest

/-- Characters that separate words, in all scripts. -/
def isBlank (c : Char) : Bool :=
  let n := c.toNat
  (0x09 ≤ n && n ≤ 0x0D) || n = 0x20 || n = 0x85 || n = 0xA0 || n = 0x1680 ||
    (0x2000 ≤ n && n ≤ 0x200A) || n = 0x2028 || n = 0x2029 || n = 0x202F || n = 0x205F || n = 0x3000

def trim (s : String) : String :=
  let front := s.toList.dropWhile isBlank
  String.ofList (front.reverse.dropWhile isBlank).reverse

def dropReturn (line : List Char) : List Char :=
  if line.getLast? = some '\r' then line.dropLast else line

/-- Lines, each up to a line feed. A carriage return in front of the line feed belongs to it, and
nothing behind the last line feed is no line. -/
def lines (s : String) : List String :=
  let parts := s.toList.splitOn '\n'
  let last := parts.getLastD []
  let all := parts.dropLast.map dropReturn ++ if last.isEmpty then [] else [last]
  all.map String.ofList

def hexDigits (width n : Nat) : String :=
  let digits := Nat.toDigits 16 n
  String.ofList (List.replicate (width - digits.length) '0' ++ digits)

def hex (width n : Nat) : String := "0x" ++ hexDigits width n

end Scanout.Text

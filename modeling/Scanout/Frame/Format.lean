import Scanout.Text.Basic

/-!
# Pixel formats

A pixel format is named by four characters, packed into a word with the first in the low byte.
-/

namespace Scanout

structure Fourcc where
  code : UInt32
  deriving DecidableEq, Repr

namespace Fourcc

def ofChars (a b c d : Char) : Fourcc :=
  ⟨UInt32.ofNat (a.toNat + b.toNat * Nat.pow 2 8 + c.toNat * Nat.pow 2 16
    + d.toNat * Nat.pow 2 24)⟩

def nv12 : Fourcc := ofChars 'N' 'V' '1' '2'
def nv16 : Fourcc := ofChars 'N' 'V' '1' '6'
def p010 : Fourcc := ofChars 'P' '0' '1' '0'
def yuv420 : Fourcc := ofChars 'Y' 'U' '1' '2'
def r8 : Fourcc := ofChars 'R' '8' ' ' ' '
def gr88 : Fourcc := ofChars 'G' 'R' '8' '8'
def r16 : Fourcc := ofChars 'R' '1' '6' ' '
def gr1616 : Fourcc := ofChars 'G' 'R' '3' '2'
def xrgb8888 : Fourcc := ofChars 'X' 'R' '2' '4'
def argb8888 : Fourcc := ofChars 'A' 'R' '2' '4'

def bytes (f : Fourcc) : List UInt8 :=
  [f.code.toUInt8, (f.code >>> 8).toUInt8, (f.code >>> 16).toUInt8, (f.code >>> 24).toUInt8]

/-- As in `0x34325258`. -/
def hexText (f : Fourcc) : String := Text.hex 8 f.code.toNat

def listText (formats : List Fourcc) : String :=
  match formats with
  | [] => "[]"
  | _ => "[\n" ++ String.join (formats.map fun f => "    " ++ f.hexText ++ ",\n") ++ "]"

private def isAlphanumericByte (b : UInt8) : Bool := (Char.ofNat b.toNat).isAlphanum

/-- The four bytes as text: the first two are letters or digits, and zero bytes after them read as
blanks. -/
def name? (f : Fourcc) : Option String :=
  match f.bytes with
  | a :: b :: tail =>
    if isAlphanumericByte a && isAlphanumericByte b then
      String.fromUTF8? ⟨(a :: b :: tail.map fun c => if c = 0 then 32 else c).toArray⟩
    else none
  | _ => none

end Fourcc

end Scanout

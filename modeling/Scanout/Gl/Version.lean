import Scanout.Arithmetic.Checked
import Scanout.Error

/-!
# Versions of the graphics library

The library tells its version in a text such as `OpenGL ES 3.2 vendor`. The number stands behind the
last mark of the embedded profile. A number of the web profile is one less than that of the embedded
version it stands for.
-/

namespace Scanout.Gl

structure Version where
  major : Nat
  minor : Nat
  deriving DecidableEq, Repr

namespace Version

/-- What stands behind the last place at which `mark` occurs. -/
def behindLast (mark : List Char) : List Char → Option (List Char)
  | [] => none
  | c :: rest =>
    match behindLast mark rest with
    | some behind => some behind
    | none => if mark.isPrefixOf (c :: rest) then some ((c :: rest).drop mark.length) else none

def behindFirst (mark : List Char) : List Char → Option (List Char)
  | [] => none
  | c :: rest =>
    if mark.isPrefixOf (c :: rest) then some ((c :: rest).drop mark.length)
    else behindFirst mark rest

def number? (s : List Char) : Option Nat :=
  let digits := match s with
    | '+' :: rest => rest
    | s => s
  if digits.isEmpty || !digits.all Char.isDigit then none
  else
    let n := digits.foldl (fun n c => 10 * n + (c.toNat - '0'.toNat)) 0
    if n < Nat.pow 2 32 then some n else none

/-- The number behind the point. One that begins with zero is zero, and zeros at its end do not
count. -/
def minor? (s : List Char) : Option Nat :=
  match s with
  | '0' :: _ => some 0
  | s => number? (s.reverse.dropWhile (· = '0')).reverse

def numbers? (s : List Char) : Option (Nat × Nat) :=
  match (s.takeWhile (· ≠ ' ')).splitOn '.' with
  | major :: minor :: _ => do some (← number? major, ← minor? minor)
  | _ => none

def ofText (text : String) : Except Fault Version :=
  let s := text.toList
  let web := "WebGL ".toList
  let isWeb := web.isPrefixOf s
  let mark := if isWeb then web else " ES ".toList
  let s := (behindLast mark s).getD s
  let shading := behindFirst "GLSL ES ".toList s
  let s := shading.getD s
  match numbers? s with
  | none => .error (.unreadableVersion (String.ofList s))
  | some (major, minor) =>
    if isWeb && shading.isNone then
      if major + 1 < Nat.pow 2 32 then .ok ⟨major + 1, minor⟩ else .error (.arithmetic .addition)
    else .ok ⟨major, minor⟩

/-- Extensions have numbers, and are not one text. -/
def listsExtensions (v : Version) : Bool := 3 ≤ v.major

end Version

end Scanout.Gl

import Scanout.Display.Device
import Scanout.Frame.Descriptor

/-!
# Imported handles of a frame

Showing a frame needs one handle for every memory object its planes lie in. A set holds at most one
handle per object. It is imported all or nothing, and it is released by closing every handle once,
whether or not the closing succeeds.
-/

namespace Scanout

open Display

/-- Handles by index of the memory object. -/
structure HandleSet where
  slots : Vector (Option GemHandle) maxPlanes
  deriving DecidableEq, Repr

namespace HandleSet

def empty : HandleSet := ⟨Vector.replicate maxPlanes none⟩

def get? (s : HandleSet) (object : Nat) : Option GemHandle := s.slots[object]?.join

def insert (s : HandleSet) (object : Nat) (bound : object < maxPlanes) (handle : GemHandle) :
    HandleSet :=
  ⟨s.slots.set object (some handle) bound⟩

def held (s : HandleSet) : List GemHandle := s.slots.toList.filterMap id

def size (s : HandleSet) : Nat := s.held.length

def isEmpty (s : HandleSet) : Bool := s.size == 0

/-- Closes the handles of the objects from `object` on; the first failure is the outcome. -/
def closeFrom (object : Nat) : List (Option GemHandle) → Program (Except PresentError Unit)
  | [] => pure (.ok ())
  | none :: rest => closeFrom (object + 1) rest
  | some handle :: rest => do
    match ← Program.closeHandle handle with
    | .ok () => closeFrom (object + 1) rest
    | .error cause =>
      Proc.notice (.closeFailed handle cause)
      let _ ← closeFrom (object + 1) rest
      return .error (.handleLingers object cause)

def release (s : HandleSet) : Program (Except PresentError Unit × HandleSet) := do
  let outcome ← closeFrom 0 s.slots.toList
  return (outcome, empty)

/-- Goes out of use. Handles that are still held then can no longer be closed. -/
def discard (s : HandleSet) : Program Unit :=
  if s.isEmpty then pure () else Proc.notice (.handlesLeaked s.size)

def rollBack (s : HandleSet) : Program Unit := do
  let (outcome, rest) ← s.release
  Proc.noticeFailure .rollbackFailed outcome
  rest.discard

/-- Imports the objects of `planes` that `s` does not hold yet. -/
def extend (d : FrameDescriptor) : List Plane → HandleSet →
    Program (Except PresentError HandleSet)
  | [], s => return .ok s
  | plane :: rest, s =>
    if (s.get? plane.object).isSome then extend d rest s
    else
      match d.object? plane.object with
      | none => do
        s.rollBack
        return .error (.missingObject plane.object)
      | some object =>
        if bound : plane.object < maxPlanes then do
          match ← Program.importPrimeFd object.fd with
          | .ok handle =>
            Proc.notice (.objectImported plane.object handle)
            extend d rest (s.insert plane.object bound handle)
          | .error cause =>
            s.rollBack
            return .error (.objectImportFailed plane.object cause)
        else do
          s.rollBack
          return .error (.missingObject plane.object)

/-- Imports every object that `planes` lie in, each once, in the order of first use. -/
def ofPlanes (d : FrameDescriptor) (planes : List Plane) :
    Program (Except PresentError HandleSet) :=
  extend d planes empty

end HandleSet

end Scanout

import Scanout.Frame.Descriptor
import Scanout.Import.HandleSet

/-!
# Generations

A generation is what one presented frame keeps alive while the display may read it: a framebuffer,
the handles it was made from, and the image that owns the memory.
-/

namespace Scanout

open Display

structure Generation where
  framebuffer : Option FramebufferId
  handles : HandleSet
  image : Option Image

namespace Generation

def empty : Generation := ⟨none, .empty, none⟩

def framebufferNumber (g : Generation) : UInt32 := (g.framebuffer.map (·.id)).getD 0

def destroyFramebuffer (g : Generation) : Program (Except PresentError Unit) :=
  match g.framebuffer with
  | none => return .ok ()
  | some framebuffer => do
    match ← Program.destroyFramebuffer framebuffer with
    | .ok () => return .ok ()
    | .error cause => return .error (.framebufferLingers framebuffer cause)

/-- Destroys the framebuffer, closes the handles and lets go of the image. Every step is taken
even if one before it failed, and the first failure is the outcome. -/
def release (g : Generation) : Program (Except PresentError Unit × Generation) := do
  let destroyed ← g.destroyFramebuffer
  let (closed, handles) ← g.handles.release
  let outcome := match destroyed with
    | .ok () => closed
    | .error e => .error e
  return (outcome, { framebuffer := none, handles, image := none })

/-- Releases a generation that goes out of use. A failure is only reported. -/
def retire (reason : Retirement) (g : Generation) : Program Unit := do
  let (outcome, rest) ← g.release
  Proc.noticeFailure (.releaseFailed reason) outcome
  rest.handles.discard

def retireAll (reason : Retirement) : List Generation → Program Unit
  | [] => pure ()
  | g :: rest => do
    g.retire reason
    retireAll reason rest

def handleCount : List Generation → Nat
  | [] => 0
  | g :: rest => g.handles.size + handleCount rest

/-- Generations go out of use without being released. -/
def discardAll : List Generation → Program Unit
  | [] => pure ()
  | g :: rest => do
    g.handles.discard
    discardAll rest

end Generation

end Scanout

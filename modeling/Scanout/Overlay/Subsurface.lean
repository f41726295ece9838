import Scanout.Display.Property
import Scanout.Frame.Descriptor
import Scanout.Log.Notice

/-!
# Subsurface overlay

A backend that could scan out through a compositor's subsurface. It can be chosen, but it refuses
every frame; the end of a stream that never began is done at once.
-/

namespace Scanout.Overlay

/-- The backend holds nothing. -/
structure Subsurface where
  deriving DecidableEq, Repr

namespace Subsurface

def create : Subsurface × List Notice := (⟨⟩, [.subsurfaceReady])

def present (s : Subsurface) (image : Option Image) (batch : Batch) :
    Subsurface × Batch × Except PresentError Unit :=
  match image with
  | none => (s, batch, .ok ())
  | some _ => (s, batch, .error .subsurfaceUnavailable)

def uninit (s : Subsurface) : Subsurface := s

end Subsurface

end Scanout.Overlay

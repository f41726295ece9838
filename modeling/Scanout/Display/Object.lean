/-!
# Names of display objects

Every id the display controller hands out is a 32-bit number of its own kind.
-/

namespace Scanout

structure Fd where
  number : Int32
  deriving DecidableEq, Repr

structure GemHandle where
  id : UInt32
  deriving DecidableEq, Repr

structure FramebufferId where
  id : UInt32
  deriving DecidableEq, Repr

structure BlobId where
  id : UInt32
  deriving DecidableEq, Repr

inductive ModeObject where
  | plane (id : UInt32)
  | crtc (id : UInt32)
  | connector (id : UInt32)
  deriving DecidableEq, Repr

namespace ModeObject

def id : ModeObject → UInt32
  | plane id | crtc id | connector id => id

def kindText : ModeObject → String
  | plane _ => "Plane"
  | crtc _ => "Crtc"
  | connector _ => "Connector"

def text (o : ModeObject) : String := s!"{o.kindText}({o.id})"

end ModeObject

structure Targets where
  crtc : UInt32
  connector : UInt32
  videoPlane : UInt32
  deriving DecidableEq, Repr

def Targets.fieldText (t : Targets) : String :=
  s!"OverlayTargets \x7b crtc: {t.crtc}, connector: {t.connector}, video_plane: {t.videoPlane} \x7d"

end Scanout

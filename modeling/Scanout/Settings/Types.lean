import Scanout.Geometry.Rect

/-!
# Settings

What the user can set, section by section, with the defaults. Names are kept as text until they are
validated.
-/

namespace Scanout

structure GeneralSettings where
  logLevel : String := "info"
  deriving DecidableEq, Repr

structure DrmSettings where
  device : String := "/dev/dri/card0"
  connectorId : Option UInt32 := none
  crtcId : Option UInt32 := none
  videoPlaneId : Option UInt32 := none
  commit : String := "atomic"
  deriving DecidableEq, Repr

structure OverlaySettings where
  backend : String := "drm"
  originAlignment : UInt32 := 2
  extentAlignment : UInt32 := 2
  zpos : UInt64 := 0
  /-- The surface that destinations are given on; none for the display itself. -/
  osdWidth : Option UInt32 := none
  osdHeight : Option UInt32 := none
  deriving DecidableEq, Repr

structure TextureSettings where
  enabled : Bool := true
  deriving DecidableEq, Repr

structure Settings where
  general : GeneralSettings := {}
  drm : DrmSettings := {}
  overlay : OverlaySettings := {}
  texture : TextureSettings := {}
  deriving DecidableEq, Repr

end Scanout

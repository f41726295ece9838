import Scanout.Display.Object

/-!
# Property writes

Atomic updates are lists of property writes that are submitted together. A property is an object
and a name, and the last write to it counts.
-/

namespace Scanout

namespace Property

def fbId : String := "FB_ID"
def crtcId : String := "CRTC_ID"
def srcX : String := "SRC_X"
def srcY : String := "SRC_Y"
def srcW : String := "SRC_W"
def srcH : String := "SRC_H"
def crtcX : String := "CRTC_X"
def crtcY : String := "CRTC_Y"
def crtcW : String := "CRTC_W"
def crtcH : String := "CRTC_H"
def zpos : String := "ZPOS"
def eotf : String := "EOTF"
def colorSpace : String := "COLOR_SPACE"
def hdrSourceMetadata : String := "HDR_SOURCE_METADATA"
def hdmiOutputFormat : String := "HDMI_OUTPUT_FORMAT"
def hdrPanelMetadata : String := "HDR_PANEL_METADATA"

def all : List String :=
  [fbId, crtcId, srcX, srcY, srcW, srcH, crtcX, crtcY, crtcW, crtcH, zpos, eotf, colorSpace,
    hdrSourceMetadata, hdmiOutputFormat, hdrPanelMetadata]

end Property

structure PropertyWrite where
  object : ModeObject
  name : String
  value : UInt64
  deriving DecidableEq, Repr

/-- Writes for one refresh of the display, in the order they were made. -/
structure Batch where
  writes : List PropertyWrite
  deriving DecidableEq, Repr

namespace Batch

def empty : Batch := ⟨[]⟩

def isEmpty (b : Batch) : Bool := b.writes.isEmpty

def set (b : Batch) (object : ModeObject) (name : String) (value : UInt64) : Batch :=
  ⟨b.writes ++ [⟨object, name, value⟩]⟩

def append (b later : Batch) : Batch := ⟨b.writes ++ later.writes⟩

/-- The value the last write to a property gives it. -/
def value? (b : Batch) (object : ModeObject) (name : String) : Option UInt64 :=
  (b.writes.reverse.find? fun w => w.object = object && w.name = name).map PropertyWrite.value

end Batch

end Scanout

import Scanout.Error

/-!
# Attribute lists of external images

An image that is made from DMA-bufs is described by a list of words: keys with their values, and a
last key that ends the list. Numbers that need 32 bits keep their bits and can be negative.
-/

namespace Scanout.Texture

namespace Attribute

def none : Int32 := 0x3038
def width : Int32 := 0x3057
def height : Int32 := 0x3056
def linuxDmaBuf : UInt32 := 0x3270
def linuxDrmFourcc : Int32 := 0x3271
def yuvColorSpaceHint : Int32 := 0x327B
def sampleRangeHint : Int32 := 0x327C
def ituRec601 : Int32 := 0x327F
def yuvNarrowRange : Int32 := 0x3283

structure PlaneKeys where
  fd : Int32
  offset : Int32
  pitch : Int32
  deriving DecidableEq, Repr

def planeKeys : List PlaneKeys :=
  [⟨0x3272, 0x3273, 0x3274⟩, ⟨0x3275, 0x3276, 0x3277⟩, ⟨0x3278, 0x3279, 0x327A⟩,
    ⟨0x3440, 0x3441, 0x3442⟩]

end Attribute

def externalTarget : UInt32 := 0x8D65

/-- What a shader must enable to sample an external texture. -/
def shaderExtensions : List String := ["GL_OES_EGL_image_external"]

end Scanout.Texture

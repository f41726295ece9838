import Scanout.Frame.Descriptor
import Scanout.Texture.Attributes

/-!
# What one layer is as an external image
-/

namespace Scanout.Texture

structure ImagePlane where
  fd : Fd
  offset : UInt32
  pitch : UInt32
  deriving DecidableEq, Repr

structure Description where
  format : Fourcc
  size : Size
  planes : List ImagePlane
  deriving DecidableEq, Repr

namespace Description

def plane (d : FrameDescriptor) (layer : Nat) (p : Plane) : Except PresentError ImagePlane :=
  match d.object? p.object with
  | some object => .ok ⟨object.fd, p.offset, p.pitch⟩
  | none => .error (.layerMissesObject layer p.object)

def ofLayer (image : Image) (index : Nat) : Except PresentError Description :=
  match image.descriptor.layers[index]? with
  | none => .error (.missingLayer index)
  | some layer =>
    match layer.planes.mapM (plane image.descriptor index) with
    | .ok planes => .ok ⟨layer.format, image.size, planes⟩
    | .error e => .error e

def planeAttributes (p : ImagePlane) (keys : Attribute.PlaneKeys) : List Int32 :=
  [keys.fd, p.fd.number, keys.offset, p.offset.toInt32, keys.pitch, p.pitch.toInt32]

/-- The attribute list. Colours are always hinted as BT.601 in narrow range. -/
def toAttributes (d : Description) : List Int32 :=
  [Attribute.linuxDrmFourcc, d.format.code.toInt32, Attribute.width, d.size.width.toInt32,
    Attribute.height, d.size.height.toInt32] ++
  (List.zipWith planeAttributes d.planes Attribute.planeKeys).flatten ++
  [Attribute.yuvColorSpaceHint, Attribute.ituRec601, Attribute.sampleRangeHint,
    Attribute.yuvNarrowRange, Attribute.none]

end Description

end Scanout.Texture

import Scanout.Error
import Scanout.Frame.Color

/-!
# Decoded frames

A frame is a list of memory objects and a list of layers. A layer is a pixel format with the planes
that carry it, and a plane is a place inside an object. A descriptor holds only layouts in which
every plane lies in an object and every count is between one and four.

An image is a descriptor with what is to be known of its pixels. It is handed out by the decoder and
then shared.
-/

namespace Scanout

structure MemoryObject where
  fd : Fd
  size : Nat
  deriving DecidableEq, Repr

/-- A place inside the memory object of the given index. -/
structure Plane where
  object : Nat
  offset : UInt32
  pitch : UInt32
  deriving DecidableEq, Repr

structure Layer where
  format : Fourcc
  planes : List Plane
  deriving DecidableEq, Repr

def CountAllowed (n : Nat) : Prop := 0 < n ∧ n ≤ maxPlanes

instance (n : Nat) : Decidable (CountAllowed n) := inferInstanceAs (Decidable (_ ∧ _))

def Layer.Fits (objects : Nat) (layer : Layer) : Prop :=
  CountAllowed layer.planes.length ∧ ∀ p ∈ layer.planes, p.object < objects

structure FrameDescriptor where
  objects : List MemoryObject
  layers : List Layer
  objects_allowed : CountAllowed objects.length
  layers_allowed : CountAllowed layers.length
  layers_fit : ∀ layer ∈ layers, layer.Fits objects.length

namespace FrameDescriptor

/-- Checks one layer after the other, the planes of a layer in order. Reports the first fault. -/
def checkLayers (objects : Nat) : Nat → (layers : List Layer) →
    Except PresentError (PLift (∀ layer ∈ layers, layer.Fits objects))
  | _, [] => .ok ⟨fun _ h => absurd h (List.not_mem_nil)⟩
  | index, layer :: rest =>
    if count : CountAllowed layer.planes.length then
      match found : layer.planes.find? (fun p => decide (objects ≤ p.object)) with
      | some plane => .error (.danglingObject index plane.object objects)
      | none =>
        match checkLayers objects (index + 1) rest with
        | .error e => .error e
        | .ok ⟨fit⟩ => .ok ⟨by
            intro l member
            rcases List.mem_cons.mp member with rfl | member
            · refine ⟨count, fun p hp => ?_⟩
              have bound := List.find?_eq_none.mp found p hp
              simpa using bound
            · exact fit l member⟩
    else .error (.planeCount index layer.planes.length)

def ofParts (objects : List MemoryObject) (layers : List Layer) :
    Except PresentError FrameDescriptor :=
  if ho : CountAllowed objects.length then
    if hl : CountAllowed layers.length then
      match checkLayers objects.length 0 layers with
      | .error e => .error e
      | .ok ⟨fit⟩ => .ok ⟨objects, layers, ho, hl, fit⟩
    else .error (.layerCount layers.length)
  else .error (.objectCount objects.length)

def object? (d : FrameDescriptor) (index : Nat) : Option MemoryObject := d.objects[index]?

def planes (d : FrameDescriptor) : List Plane := d.layers.flatMap Layer.planes

/-- Indices of the objects the planes lie in, each once, in the order of first use. -/
def referencedObjects (d : FrameDescriptor) : List Nat :=
  d.planes.foldl (fun seen p => if p.object ∈ seen then seen else seen ++ [p.object]) []

/-- Planes of the one framebuffer that shows the frame: all planes of a single layer, and of
several layers the first plane each. -/
def scanoutPlanes (d : FrameDescriptor) : List Plane :=
  match d.layers with
  | [layer] => layer.planes
  | layers => layers.filterMap (·.planes.head?)

/-- Format of that framebuffer: the layer's own, and for layers of one component each the format
that holds the same components in planes. -/
def scanoutFormat (d : FrameDescriptor) : Except PresentError Fourcc :=
  match d.layers.map Layer.format with
  | [single] => .ok single
  | formats =>
    if formats = [.r8, .gr88] then .ok .nv12
    else if formats = [.r16, .gr1616] then .ok .p010
    else if formats = [.r8, .r8, .r8] then .ok .yuv420
    else .error (.noScanoutFormat formats)

end FrameDescriptor

structure Image where
  /-- Tells images of equal content apart. -/
  serial : Nat
  descriptor : FrameDescriptor
  size : Size
  color : Color

end Scanout

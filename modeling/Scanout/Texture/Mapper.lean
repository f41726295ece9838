import Scanout.Texture.ImageApi

/-!
# Mapping frames to textures

A mapper shows one frame at a time: every layer is made an external image and bound to a texture of
its own. The images of a frame are destroyed before those of the next are made, and a frame that
cannot be mapped as a whole is not mapped at all.
-/

namespace Scanout.Texture

structure Binding where
  texture : TextureId
  target : UInt32
  /-- Row pitch of the layer's first plane, in bytes. -/
  width : UInt32
  height : UInt32
  deriving DecidableEq, Repr

/-- The images made for a frame, and the frame they keep alive. -/
structure MappedFrame where
  images : List ExternalImage
  frame : Image

structure Mapper where
  /-- One texture for every layer a frame can have, or none at all. -/
  textures : Option (Vector TextureId maxPlanes)
  mapped : Option MappedFrame

namespace Mapper

def create : Program Mapper := do
  Proc.notice (.texturesReady shaderExtensions)
  return { textures := none, mapped := none }

/-- Destroys images in order. Failures are only reported, by `failed`. -/
def destroyImages (failed : PresentError → Notice) : List ExternalImage → Program Unit
  | [] => pure ()
  | image :: rest => do
    let outcome ← Program.destroyImage image
    Proc.noticeFailure failed outcome
    destroyImages failed rest

def imageCount (m : Mapper) : Nat := (m.mapped.map fun f => f.images.length).getD 0

def unmap (m : Mapper) : Program Mapper := do
  match m.mapped with
  | none => return m
  | some frame =>
    destroyImages .externalImageLingers frame.images
    return { m with mapped := none }

def deleteTextures (m : Mapper) : Program Mapper := do
  match m.textures with
  | none => return m
  | some textures =>
    Program.deleteTextures textures.toList
    return { m with textures := none }

def destroy (m : Mapper) : Program Mapper := do
  let m ← m.unmap
  m.deleteTextures

/-- Makes the textures anew. What the old ones showed is gone, also if there are no new ones. -/
def allocate (m : Mapper) :
    Program (Mapper × Except PresentError (Vector TextureId maxPlanes)) := do
  let m ← m.destroy
  match ← Program.createTextures maxPlanes with
  | .ok textures => return ({ m with textures := some textures }, .ok textures)
  | .error e => return (m, .error e)

def reinit (m : Mapper) : Program (Mapper × Except PresentError Unit) := do
  let (m, outcome) ← m.allocate
  return (m, outcome.map fun _ => ())

/-- The textures, made now if there are none. -/
def ensureTextures (m : Mapper) :
    Program (Mapper × Except PresentError (Vector TextureId maxPlanes)) := do
  match m.textures with
  | some textures => return (m, .ok textures)
  | none => m.allocate

def binding (image : Image) (layer : Layer) (texture : TextureId) : Binding where
  texture
  target := externalTarget
  width := (layer.planes.head?.map Plane.pitch).getD 0
  height := image.size.height

/-- Makes an image for every layer from number `index` on and binds it to the texture beside it.
Yields every image that was made, also if a layer failed, and stops at the first failure. -/
def bindLayers (image : Image) : (index : Nat) → List (Layer × TextureId) →
    Program (List ExternalImage × Except PresentError (List Binding))
  | _, [] => return ([], .ok [])
  | index, (layer, texture) :: rest =>
    match Description.ofLayer image index with
    | .error e => return ([], .error e)
    | .ok description => do
      match ← Program.createImage description with
      | .error e => return ([], .error e)
      | .ok made =>
        match ← Program.bindImage texture made with
        | .error e => return ([made], .error e)
        | .ok () =>
          let (others, outcome) ← bindLayers image (index + 1) rest
          return (made :: others, outcome.map (binding image layer texture :: ·))

def mapFrame (m : Mapper) (image : Image) :
    Program (Mapper × Except PresentError (List Binding)) := do
  let m ← m.unmap
  let (m, ensured) ← m.ensureTextures
  match ensured with
  | .error e => return (m, .error e)
  | .ok textures =>
    let (images, outcome) ← bindLayers image 0 (image.descriptor.layers.zip textures.toList)
    match outcome with
    | .error e =>
      destroyImages .partialImageLingers images
      return (m, .error e)
    | .ok bindings => return ({ m with mapped := some ⟨images, image⟩ }, .ok bindings)

end Mapper

end Scanout.Texture

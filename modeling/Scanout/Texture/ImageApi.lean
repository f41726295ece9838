import Scanout.Proc
import Scanout.Texture.Description

/-!
# The external image interface

What a GPU must offer so that DMA-bufs can be sampled as textures.
-/

namespace Scanout.Texture

structure TextureId where
  name : UInt32
  deriving DecidableEq, Repr

structure ExternalImage where
  handle : UInt64
  deriving DecidableEq, Repr

inductive Request where
  /-- New textures with linear filtering, clamped to the edge. -/
  | createTextures (count : Nat)
  | deleteTextures (textures : List TextureId)
  | createImage (description : Description)
  | destroyImage (image : ExternalImage)
  | bindImage (texture : TextureId) (image : ExternalImage)
  deriving DecidableEq

/-- All but the deletion of textures can fail. -/
def Request.Answer : Request → Type
  | .createTextures count => Except PresentError (Vector TextureId count)
  | .deleteTextures _ => Unit
  | .createImage _ => Except PresentError ExternalImage
  | .destroyImage _ | .bindImage .. => Except PresentError Unit

def interface : Interface where
  Request := Request
  Answer := Request.Answer

abbrev Program (α : Type) : Type := Proc interface α

namespace Program

def createTextures (count : Nat) : Program (Except PresentError (Vector TextureId count)) :=
  Proc.ask (I := interface) (Request.createTextures count)

def deleteTextures (textures : List TextureId) : Program Unit :=
  Proc.ask (I := interface) (Request.deleteTextures textures)

def createImage (description : Description) : Program (Except PresentError ExternalImage) :=
  Proc.ask (I := interface) (Request.createImage description)

def destroyImage (image : ExternalImage) : Program (Except PresentError Unit) :=
  Proc.ask (I := interface) (Request.destroyImage image)

def bindImage (texture : TextureId) (image : ExternalImage) : Program (Except PresentError Unit) :=
  Proc.ask (I := interface) (Request.bindImage texture image)

end Program

end Scanout.Texture

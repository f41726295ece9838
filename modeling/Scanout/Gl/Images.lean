import Scanout.Gl.Probe
import Scanout.Texture.Mapper

/-!
# External images on the graphics library

Every request of the external image interface as a program on EGL and GLES.
-/

namespace Scanout.Gl

open Texture (TextureId ExternalImage Description externalTarget)

/-- Sampling state of an external texture: parameter and value. Both filters are linear, and both
directions are clamped to the edge. -/
def textureParameters : List (UInt32 × UInt32) :=
  [(0x2801, 0x2601), (0x2800, 0x2601), (0x2802, 0x812F), (0x2803, 0x812F)]

def unitZero : UInt32 := 0x84C0

/-- There are at most so many kinds of pending error. -/
def maxPendingErrors : Nat := 16

def prepareTexture (texture : TextureId) : Program Unit := do
  Program.bindTexture externalTarget (some texture)
  textureParameters.forM fun (parameter, value) =>
    Program.texParameter externalTarget parameter value

def deleteTextures : List TextureId → Program Unit
  | [] => pure ()
  | texture :: rest => do
    Program.deleteTexture texture
    deleteTextures rest

/-- Makes `count` textures after those in `made`. If one cannot be made, none of them stays. -/
def makeTextures : (count : Nat) → (made : List TextureId) →
    Program (Except PresentError { l : List TextureId // l.length = count })
  | 0, _ => return .ok ⟨[], rfl⟩
  | count + 1, made => do
    let name ← Program.genTexture
    if name = 0 then
      deleteTextures made
      return .error (.textureFailed "Unable to create Texture object")
    else
      prepareTexture ⟨name⟩
      match ← makeTextures count (made ++ [⟨name⟩]) with
      | .error e => return .error e
      | .ok ⟨rest, h⟩ => return .ok ⟨⟨name⟩ :: rest, congrArg (· + 1) h⟩

def createTextures (count : Nat) : Program (Except PresentError (Vector TextureId count)) := do
  match ← makeTextures count [] with
  | .error e => return .error e
  | .ok ⟨textures, h⟩ =>
    Program.bindTexture externalTarget none
    return .ok ⟨textures.toArray, h⟩

def createImage (d : Description) : Program (Except PresentError ExternalImage) := do
  let handle ← Program.createImage Texture.Attribute.linuxDmaBuf d.toAttributes
  if handle = 0 then return .error (.imageFailed d.size d.format)
  else return .ok ⟨handle⟩

def destroyImage (image : ExternalImage) : Program (Except PresentError Unit) := do
  if ← Program.destroyImage image then return .ok () else return .error .imageLingers

/-- Takes pending errors until there is none, at most `limit`, and counts them. -/
def drainErrors : (limit : Nat) → Program Nat
  | 0 => return 0
  | limit + 1 => do
    if (← Program.getError) = 0 then return 0
    else return (← drainErrors limit) + 1

/-- Makes an image what a texture samples. Errors that were pending before are not its own. -/
def bindImage (texture : TextureId) (image : ExternalImage) :
    Program (Except PresentError Unit) := do
  let stale ← drainErrors maxPendingErrors
  if 0 < stale then Proc.notice (.staleErrorsDiscarded stale)
  Program.activeTexture unitZero
  Program.bindTexture externalTarget (some texture)
  Program.imageTargetTexture externalTarget image
  Program.bindTexture externalTarget none
  let code ← Program.getError
  if code = 0 then return .ok () else return .error (.bindFailed code)

def serve : (r : Texture.Request) → Context → Program (r.Answer × Context)
  | .createTextures count, c => return (← createTextures count, c)
  | .deleteTextures textures, c => return (← deleteTextures textures, c)
  | .createImage description, c => return (← createImage description, c)
  | .destroyImage image, c => return (← destroyImage image, c)
  | .bindImage texture image, c => return (← bindImage texture image, c)

def onContext {α : Type} (c : Context) (p : Texture.Program α) : Program α := do
  let (value, _) ← Proc.translate serve p c
  return value

def openMapper : Program (Except Fault (Context × Texture.Mapper)) := do
  match ← Context.ofCurrent with
  | .error e => return .error e
  | .ok c => return .ok (c, ← onContext c Texture.Mapper.create)

end Scanout.Gl

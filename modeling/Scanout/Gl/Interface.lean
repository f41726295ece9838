import Scanout.Proc
import Scanout.Texture.ImageApi

/-!
# The graphics library

What the renderer's current EGL context and its GLES library are asked for. Names are numbers, with
zero for none, and attribute lists are words.
-/

namespace Scanout.Gl

open Texture (TextureId ExternalImage)

inductive Request where
  | currentContext
  | currentDisplay
  /-- Names of the display's extensions, with blanks between them, or what went wrong. -/
  | displayExtensions
  /-- The version of GLES, with names around it. -/
  | version
  /-- Names of the GLES extensions, one by one. -/
  | extensionNames
  /-- Names of the GLES extensions, with blanks between them. -/
  | extensionText
  | entryPoint (name : String)
  /-- A new texture name, or zero. -/
  | genTexture
  | deleteTexture (texture : TextureId)
  | bindTexture (target : UInt32) (texture : Option TextureId)
  | texParameter (target parameter value : UInt32)
  | activeTexture (unit : UInt32)
  /-- Takes the oldest pending error, zero if there is none. -/
  | getError
  | imageTargetTexture (target : UInt32) (image : ExternalImage)
  | createImage (target : UInt32) (attributes : List Int32)
  | destroyImage (image : ExternalImage)
  deriving DecidableEq

def Request.Answer : Request → Type
  | .currentContext | .currentDisplay | .destroyImage _ => Bool
  | .displayExtensions => Except String String
  | .version | .extensionText => String
  | .extensionNames => List String
  | .entryPoint _ | .createImage .. => UInt64
  | .genTexture | .getError => UInt32
  | .deleteTexture _ | .bindTexture .. | .texParameter .. | .activeTexture _
  | .imageTargetTexture .. => Unit

def interface : Interface where
  Request := Request
  Answer := Request.Answer

abbrev Program (α : Type) : Type := Proc interface α

namespace Program

def currentContext : Program Bool := Proc.ask (I := interface) Request.currentContext

def currentDisplay : Program Bool := Proc.ask (I := interface) Request.currentDisplay

def displayExtensions : Program (Except String String) :=
  Proc.ask (I := interface) Request.displayExtensions

def version : Program String := Proc.ask (I := interface) Request.version

def extensionNames : Program (List String) :=
  Proc.ask (I := interface) Request.extensionNames

def extensionText : Program String := Proc.ask (I := interface) Request.extensionText

def entryPoint (name : String) : Program UInt64 :=
  Proc.ask (I := interface) (Request.entryPoint name)

def genTexture : Program UInt32 := Proc.ask (I := interface) Request.genTexture

def deleteTexture (texture : TextureId) : Program Unit :=
  Proc.ask (I := interface) (Request.deleteTexture texture)

def bindTexture (target : UInt32) (texture : Option TextureId) : Program Unit :=
  Proc.ask (I := interface) (Request.bindTexture target texture)

def texParameter (target parameter value : UInt32) : Program Unit :=
  Proc.ask (I := interface) (Request.texParameter target parameter value)

def activeTexture (unit : UInt32) : Program Unit :=
  Proc.ask (I := interface) (Request.activeTexture unit)

def getError : Program UInt32 := Proc.ask (I := interface) Request.getError

def imageTargetTexture (target : UInt32) (image : ExternalImage) : Program Unit :=
  Proc.ask (I := interface) (Request.imageTargetTexture target image)

def createImage (target : UInt32) (attributes : List Int32) : Program UInt64 :=
  Proc.ask (I := interface) (Request.createImage target attributes)

def destroyImage (image : ExternalImage) : Program Bool :=
  Proc.ask (I := interface) (Request.destroyImage image)

end Program

end Scanout.Gl

import Scanout.Gl.Interface
import Scanout.Gl.Version
import Scanout.Text.Basic

/-!
# Probing the current context

Import of DMA-bufs needs two display extensions and one GLES extension. The display's extensions
are one text, and a name counts wherever it occurs in it. The three functions the extensions add
are looked up by name; an address is kept as it is given.
-/

namespace Scanout.Gl

def requiredDisplayExtensions : List String :=
  ["EXT_image_dma_buf_import", "EGL_KHR_image_base"]

def requiredExtension : String := "GL_OES_EGL_image"

def missingExtensions (display : String) (supported : List String) : List String :=
  requiredDisplayExtensions.filter (fun name => !Text.occursIn name.toList display.toList) ++
    if requiredExtension ∈ supported then [] else [requiredExtension]

/-- A context that can import, with the functions that the extensions add. -/
structure Context where
  createImage : UInt64
  destroyImage : UInt64
  imageTargetTexture : UInt64
  deriving DecidableEq, Repr

namespace Context

def resolve : Program Context := do
  let createImage ← Program.entryPoint "eglCreateImageKHR"
  let destroyImage ← Program.entryPoint "eglDestroyImageKHR"
  let imageTargetTexture ← Program.entryPoint "glEGLImageTargetTexture2DOES"
  Proc.notice .imageInteropReady
  return { createImage, destroyImage, imageTargetTexture }

def supportedExtensions (v : Version) : Program (List String) := do
  if v.listsExtensions then Program.extensionNames
  else return (← Program.extensionText).splitOn " "

def ofCurrent : Program (Except Fault Context) := do
  if !(← Program.currentContext) then return .error (.refused .noCurrentContext)
  if !(← Program.currentDisplay) then return .error (.refused .noCurrentDisplay)
  match ← Program.displayExtensions with
  | .error cause => return .error (.refused (.extensionQueryFailed cause))
  | .ok display =>
    match Version.ofText (← Program.version) with
    | .error fault => return .error fault
    | .ok version =>
      match missingExtensions display (← supportedExtensions version) with
      | [] => return .ok (← resolve)
      | missing => return .error (.refused (.extensionsMissing missing))

end Context

end Scanout.Gl

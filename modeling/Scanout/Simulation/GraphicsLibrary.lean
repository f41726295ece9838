import Scanout.Gl.Interface
import Scanout.Simulation.Failures

/-!
# A simulated graphics library

Textures and images are numbered from one counter. Errors of GLES stay pending until they are
taken, oldest first, and a lost context reports one error forever. A function that is absent has no
address, and one of GLES stops the program that calls it.
-/

namespace Scanout.Simulation

open Gl

structure GraphicsLibrary where
  context : Bool
  display : Bool
  /-- None if the query of the display's extensions fails. -/
  displayExtensions : Option String
  version : String
  extensions : List String
  /-- Functions that are not there. -/
  absent : List String
  /-- The first of them that was called. Nothing counts from then on. -/
  stop : Option String
  counter : Nat
  pending : List UInt32
  /-- The error that a lost context reports. -/
  lost : Option UInt32
  failures : FailurePlan Errno

namespace GraphicsLibrary

/-- The functions behind a request. The names of extensions are counted first. -/
def functions (s : GraphicsLibrary) : Request → List String
  | .version | .extensionText => ["glGetString"]
  | .extensionNames => "glGetIntegerv" :: if s.extensions.isEmpty then [] else ["glGetStringi"]
  | .genTexture => ["glGenTextures"]
  | .deleteTexture _ => ["glDeleteTextures"]
  | .bindTexture .. => ["glBindTexture"]
  | .texParameter .. => ["glTexParameteri"]
  | .activeTexture _ => ["glActiveTexture"]
  | .getError => ["glGetError"]
  | _ => []

def stopMessage? (s : GraphicsLibrary) : Option String :=
  s.stop.map fun name => s!"called {name} but it was not loaded."

def badDisplay : String :=
  "An Display argument does not name a valid EGL display connection."

def fail? (function : String) (s : GraphicsLibrary) : Option Errno × GraphicsLibrary :=
  let (failure, failures) := s.failures.next function
  (failure, { s with failures })

def takeError (s : GraphicsLibrary) : UInt32 × GraphicsLibrary :=
  match s.lost, s.pending with
  | some code, _ => (code, s)
  | none, [] => (0, s)
  | none, code :: rest => (code, { s with pending := rest })

def number (s : GraphicsLibrary) : Nat × GraphicsLibrary :=
  (s.counter + 1, { s with counter := s.counter + 1 })

def serve : (r : Request) → GraphicsLibrary → r.Answer × GraphicsLibrary
  | .currentContext, s => (s.context, s)
  | .currentDisplay, s => (s.display, s)
  | .displayExtensions, s =>
    match s.displayExtensions with
    | some names => (.ok names, s)
    | none => (.error badDisplay, s)
  | .version, s => (s.version, s)
  | .extensionNames, s => (s.extensions, s)
  | .extensionText, s => (" ".intercalate s.extensions, s)
  | .entryPoint name, s => ((if name ∈ s.absent then 0 else 1 : UInt64), s)
  | .genTexture, s =>
    match s.fail? "glGenTextures" with
    | (some _, s) => ((0 : UInt32), s)
    | (none, s) => let (name, s) := s.number; (name.toUInt32, s)
  | .deleteTexture _, s => ((), s)
  | .bindTexture .., s => ((), s)
  | .texParameter .., s => ((), s)
  | .activeTexture _, s => ((), s)
  | .getError, s => s.takeError
  | .imageTargetTexture .., s =>
    match s.fail? "glEGLImageTargetTexture2DOES" with
    | (some errno, s) => ((), { s with pending := s.pending ++ [errno.code] })
    | (none, s) => ((), s)
  | .createImage .., s =>
    match s.fail? "eglCreateImageKHR" with
    | (some _, s) => ((0 : UInt64), s)
    | (none, s) => let (handle, s) := s.number; (handle.toUInt64, s)
  | .destroyImage _, s =>
    match s.fail? "eglDestroyImageKHR" with
    | (some _, s) => (false, s)
    | (none, s) => (true, s)

def answer (r : Request) (s : GraphicsLibrary) : r.Answer × GraphicsLibrary :=
  let stop := s.stop <|> (s.functions r).find? (· ∈ s.absent)
  serve r { s with stop }

end GraphicsLibrary

end Scanout.Simulation
